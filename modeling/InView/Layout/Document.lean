import InView.Json.Ignored
import InView.Json.Writer
import InView.Layout.Validation
import InView.Visibility

/-!
# Layouts as documents

How boxes, viewports, visibilities and layouts are written as JSON and read back.

Each of the records has two forms that are read: an object with its fields as members in any order,
among others that are ignored, and a list of its fields in order.  A field must not occur twice, and
none but the elements of a layout may be missing.  The elements are an object with the ids as keys,
where a later member replaces an earlier one of its id.
-/

namespace InView

open Json Json.Reader

/-! ## Writing -/

/-- A box as a document. -/
def Box.toDocument (b : Box) : Document :=
  .object [("top", .number b.top), ("left", .number b.left), ("right", .number b.right),
    ("bottom", .number b.bottom)]

/-- A viewport as a document. -/
def Viewport.toDocument (v : Viewport) : Document :=
  .object [("width", .number v.width), ("height", .number v.height)]

/-- The name of a visibility in documents. -/
def Visibility.name : Visibility → String
  | .visible => "visible"
  | .overflowsEnd => "overflows_end"
  | .overflowsStart => "overflows_start"

/-- A visibility as a document. -/
def Visibility.toDocument (v : Visibility) : Document := .text v.name

/-- Elements as a document. -/
def Elements.toDocument (e : Elements) : Document :=
  .object (e.entries.map fun entry => (entry.1, entry.2.toDocument))

/-- A layout as a document. -/
def Layout.toDocument (l : Layout) : Document :=
  .object [("viewport", l.viewport.toDocument), ("elements", l.elements.toDocument)]

/-! ## Records -/

/-- Reads a record in either of its forms. -/
def readRecord {α : Type} (kind : String) (ofList ofObject : Reader α) : Reader α := do
  match ← peekToken with
  | none => failHere .unfinishedValue
  | some '[' =>
    advance
    ofList
  | some '{' =>
    advance
    ofObject
  | some _ => refuse ("struct " ++ kind)

/-- The expectation of a list that has a given number of items. -/
def recordLength (kind : String) (length : Nat) : String :=
  "struct " ++ kind ++ " with " ++ length.repr ++ " elements"

/-- Reads what follows a key that is no field, and ignores it. -/
def readOther {σ : Type} (s : σ) : Reader σ := do
  colon
  readIgnored
  return s

/-! ## Boxes -/

namespace Box

/-- The edges of a box read so far. -/
structure Draft where
  top : Option Binary64
  left : Option Binary64
  right : Option Binary64
  bottom : Option Binary64

/-- Reads the list form behind its bracket. -/
def readList : Reader Box := do
  let expected := recordLength "BoundingBox" 4
  let top ← readItem 0 expected readBinary64
  let left ← readItem 1 expected readBinary64
  let right ← readItem 2 expected readBinary64
  let bottom ← readItem 3 expected readBinary64
  closeList
  return ⟨top, left, right, bottom⟩

/-- Reads what follows a key of the object form. -/
def readMember (d : Draft) (key : String) : Reader Draft := do
  match key with
  | "top" => return { d with top := ← readField key d.top readBinary64 }
  | "left" => return { d with left := ← readField key d.left readBinary64 }
  | "right" => return { d with right := ← readField key d.right readBinary64 }
  | "bottom" => return { d with bottom := ← readField key d.bottom readBinary64 }
  | _ => readOther d

/-- Reads the object form behind its brace. -/
def readObject : Reader Box := do
  let d ← readMembers readMember ⟨none, none, none, none⟩
  let top ← requireField "top" d.top
  let left ← requireField "left" d.left
  let right ← requireField "right" d.right
  let bottom ← requireField "bottom" d.bottom
  return ⟨top, left, right, bottom⟩

/-- Reads a box. -/
def read : Reader Box := readRecord "BoundingBox" readList readObject

end Box

/-! ## Viewports -/

namespace Viewport

/-- The dimensions of a viewport read so far. -/
structure Draft where
  width : Option Binary64
  height : Option Binary64

/-- Reads the list form behind its bracket. -/
def readList : Reader Viewport := do
  let expected := recordLength "Viewport" 2
  let width ← readItem 0 expected readBinary64
  let height ← readItem 1 expected readBinary64
  closeList
  return ⟨width, height⟩

/-- Reads what follows a key of the object form. -/
def readMember (d : Draft) (key : String) : Reader Draft := do
  match key with
  | "width" => return { d with width := ← readField key d.width readBinary64 }
  | "height" => return { d with height := ← readField key d.height readBinary64 }
  | _ => readOther d

/-- Reads the object form behind its brace. -/
def readObject : Reader Viewport := do
  let d ← readMembers readMember ⟨none, none⟩
  let width ← requireField "width" d.width
  let height ← requireField "height" d.height
  return ⟨width, height⟩

/-- Reads a viewport. -/
def read : Reader Viewport := readRecord "Viewport" readList readObject

end Viewport

/-! ## Visibilities -/

namespace Visibility

/-- The visibility of a name. -/
def ofName? : String → Option Visibility
  | "visible" => some .visible
  | "overflows_end" => some .overflowsEnd
  | "overflows_start" => some .overflowsStart
  | _ => none

/-- Reads the name of a visibility behind its opening quote. -/
def readName : Reader Visibility := do
  let name ← readLiteral
  match ofName? name with
  | some v => return v
  | none => failHere (.unknownVariant name "`visible`, `overflows_end`, `overflows_start`")

/-- Reads the value `null`. -/
def readNull : Reader Unit := do
  match ← peekToken with
  | none => failHere .unfinishedValue
  | some 'n' => readWord "null".toList
  | some _ => refuse "unit"

/-- Reads the end of an object that must not have another member. -/
def closeTag : Reader Unit := do
  match ← peekToken with
  | none => failHere .unfinishedObject
  | some c => if c = '}' then advance else failHere .expectedValue

/-- Reads a name that is the only key of an object, behind the brace. -/
def readTagged : Reader Visibility := do
  match ← peekToken with
  | none => failHere .unfinishedObject
  | some '}' => failNext .expectedValue
  | some '"' =>
    advance
    let v ← readName
    colon
    readNull
    closeTag
    return v
  | some _ => failNext .expectedKey

/-- Reads a visibility: its name, or an object with its name as the key of `null`. -/
def read : Reader Visibility := do
  match ← peekToken with
  | none => failHere .unfinishedValue
  | some '"' =>
    advance
    readName
  | some '{' =>
    advance
    readTagged
  | some _ => failNext .expectedValue

end Visibility

/-! ## Layouts -/

namespace Elements

/-- Reads what follows an id. -/
def readMember (e : Elements) (id : String) : Reader Elements := do
  colon
  return e.insert id (← Box.read)

/-- Reads elements. -/
def read : Reader Elements := do
  match ← peekToken with
  | none => failHere .unfinishedValue
  | some '{' =>
    advance
    readMembers readMember empty
  | some _ => refuse "a map"

end Elements

namespace Layout

/-- The fields of a layout read so far. -/
structure Draft where
  viewport : Option Viewport
  elements : Option Elements

/-- Reads the list form behind its bracket; the elements may be left out. -/
def readList : Reader Layout := do
  let viewport ← readItem 0 (recordLength "LayoutSnapshot" 2) Viewport.read
  let elements ← if ← nextItem false then Elements.read else pure .empty
  closeList
  return ⟨viewport, elements⟩

/-- Reads what follows a key of the object form. -/
def readMember (d : Draft) (key : String) : Reader Draft := do
  match key with
  | "viewport" => return { d with viewport := ← readField key d.viewport Viewport.read }
  | "elements" => return { d with elements := ← readField key d.elements Elements.read }
  | _ => readOther d

/-- Reads the object form behind its brace. -/
def readObject : Reader Layout := do
  let d ← readMembers readMember ⟨none, none⟩
  let viewport ← requireField "viewport" d.viewport
  return ⟨viewport, d.elements.getD .empty⟩

/-- Reads a layout. -/
def read : Reader Layout := readRecord "LayoutSnapshot" readList readObject

end Layout

end InView
