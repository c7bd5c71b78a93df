/-
# Table columns

A column of a table is made from cells and reads back as cells, but not always as the same ones:
all cells of a column share one storage type, which is either given or inferred from them.  Whole
numbers beside doubles or missing cells become doubles, missing cells beside texts become
not-a-number, and a mixture of types is stored as it is.
-/
import PropertyGraph.Table.Instant
import PropertyGraph.Value.Array
import PropertyGraph.Value.Key

namespace PropertyGraph

/-- The storage types of columns. -/
inductive ColumnType
  /-- Cells as they are. -/
  | object
  /-- Whole numbers of a fixed width, possibly missing. -/
  | nullableInt (type : ScalarType)
  /-- Floating-point numbers of some format, possibly missing. -/
  | nullableFloat (format : FloatFormat)
  /-- Truth values, possibly missing. -/
  | nullableBool
  /-- Texts, possibly missing. -/
  | nullableText
  /-- Texts; what is missing is not-a-number. -/
  | text
  /-- Cells from a small supply of equal ones. -/
  | category
  /-- Floating-point or complex numbers of a fixed width, or truth values. -/
  | scalar (type : ScalarType)
  /-- Whole numbers of a fixed width. -/
  | integer (type : ScalarType)
  /-- Points in time, counted in steps of some unit. -/
  | instant (unit : TimeUnit)
deriving DecidableEq, Repr

namespace ColumnType

/-- A storage type by its name. -/
def ofName? : String → Option ColumnType
  | "object" => some .object
  | "Int8" => some (.nullableInt .int8)
  | "Int16" => some (.nullableInt .int16)
  | "Int32" => some (.nullableInt .int32)
  | "Int64" => some (.nullableInt .int64)
  | "UInt8" => some (.nullableInt .uint8)
  | "UInt16" => some (.nullableInt .uint16)
  | "UInt32" => some (.nullableInt .uint32)
  | "UInt64" => some (.nullableInt .uint64)
  | "Float64" => some (.nullableFloat .double)
  | "Float32" => some (.nullableFloat .single)
  | "boolean" => some .nullableBool
  | "string" => some .nullableText
  | "str" => some .text
  | "category" => some .category
  | "float64" | "float" => some (.scalar .float64)
  | "float32" => some (.scalar .float32)
  | "float16" => some (.scalar .float16)
  | "complex128" | "complex" => some (.scalar .complex128)
  | "bool" => some (.scalar .boolean)
  | "int8" => some (.integer .int8)
  | "int16" => some (.integer .int16)
  | "int32" => some (.integer .int32)
  | "int64" | "int" => some (.integer .int64)
  | "uint8" => some (.integer .uint8)
  | "uint16" => some (.integer .uint16)
  | "uint32" => some (.integer .uint32)
  | "uint64" => some (.integer .uint64)
  | "datetime64[ns]" => some (.instant .nanosecond)
  | "datetime64[us]" => some (.instant .microsecond)
  | "datetime64[ms]" => some (.instant .millisecond)
  | "datetime64[s]" => some (.instant .second)
  | _ => none

end ColumnType

/-- Why cells cannot be stored in a column. -/
inductive ColumnFault
  /-- A cell does not fit the type of the column, or the cells make no row of cells. -/
  | cell (fault : FitFault)
  /-- A whole number is out of the range of its type. -/
  | outOfRange (type : ScalarType)
  /-- A number is negative where no sign is stored. -/
  | negative
  /-- A number is changed by its type of whole numbers. -/
  | tooLarge (type : ScalarType)
  /-- A text is not the text of the whole number that it is read as. -/
  | losesText (type : ScalarType)
  /-- A number has a fractional part. -/
  | fractional
  /-- A number is not finite. -/
  | notFinite
  /-- The cells have no type in common. -/
  | mixed
  /-- The text of the cell at some position tells no point in time. -/
  | noMoment (s : String) (position : Nat) (fault : CellMomentFault)
  /-- A cell is of a type that the column does not take. -/
  | wrongType
deriving Repr

namespace ColumnFault

/-- Whether the fault is that a number is too large. -/
def isOverflow : ColumnFault → Bool
  | .outOfRange _ | .negative => true
  | .cell fault => fault.isOverflow
  | _ => false

/-- The wording of a fault; that a cell is of a wrong type is its own wording. -/
def message : ColumnFault → String
  | .cell fault => fault.message
  | .outOfRange type =>
    "The elements provided in the data cannot all be casted to the dtype " ++ type.name
  | .negative => "Trying to coerce negative values to unsigned integers"
  | .tooLarge type =>
    "Values are too large to be losslessly converted to " ++ type.name ++
      ". To cast anyway, use pd.Series(values).astype(" ++ type.name ++ ")"
  | .losesText type => "string values cannot be losslessly cast to " ++ type.name
  | .fractional => "Trying to coerce float values to integers"
  | .notFinite => "Cannot convert non-finite values (NA or inf) to integer"
  | .mixed => "Trying to coerce object values to integers"
  | .noMoment s position fault => fault.message s position
  | .wrongType => ""

end ColumnFault

namespace Column

/-- Not-a-number, which stands for a missing cell among numbers and texts. -/
def missingNumber : Value := .double .nan

/-- A cell of a column stored as it is: numbers and truth values of a fixed width are made plain,
and a point in time becomes one of the table's. -/
def objectCell : Value → Value
  | .sized type content => match type, content with
    | .datetime64 _, _ => ((type.moment? content).map Value.instant).getD .noInstant
    | _, .number _ | _, .bool _ => content
    | _, _ => .sized type content
  | v => v

/-- A cell of lists that are equally long everywhere. -/
def gridCell : Value → Value
  | .list items => .tuple items
  | v => v

/-! ### Fixed-width columns -/

/-- The cells as an array of a type, or of the type that they have in common. -/
def arrayOf (type : Option ScalarType) (cells : List Value) :
    Except ColumnFault (ScalarType × List Nat × List Value) :=
  match Value.ofNested type none (.list cells) with
  | .ok (.array type _ shape items) => .ok (type, shape, items)
  | .ok _ => .error .wrongType
  | .error fault => .error (.cell fault)

/-- Cells as scalars of a type; lists that are equally long everywhere stay lists. -/
def storeScalars (type : ScalarType) (cells : List Value) : Except ColumnFault (List Value) := do
  let (type, shape, items) ← arrayOf (some type) cells
  return if shape.length = 1 then items.map type.unwrap else cells.map gridCell

/-- Whether whole numbers are the same as what they were read from. -/
def checkSame (type : ScalarType) (integers : List Value) (source : ScalarType)
    (items : List Value) : Except ColumnFault Unit :=
  let same := (integers.zip items).all fun (i, v) => Value.samePlainKey i v
  match source with
  | .text =>
    if (integers.zip items).all fun (i, v) => v.asText? = some i.shown then .ok ()
    else .error (.losesText type)
  | .boolean | .float16 | .float32 | .float64 =>
    if same then .ok ()
    else if items.any fun v => ((ScalarType.doubleOf v).truncate?).isNone then .error .notFinite
    else .error .fractional
  | .object => if same then .ok () else .error .mixed
  | .bytes | .datetime64 _ => .error .wrongType
  | _ =>
    if same then .ok ()
    else if type.isWideUnsigned ∧ items.any fun v => ScalarType.countOf v < 0 then .error .negative
    else .error (.tooLarge type)

/-- Cells as whole numbers of a type, none of which may be changed by it. -/
def storeIntegers (type : ScalarType) (cells : List Value) : Except ColumnFault (List Value) := do
  let (_, shape, integers) ← (arrayOf (some type) cells).mapError fun fault =>
    if fault.isOverflow then .outOfRange type else fault
  let (source, _, items) ← arrayOf none cells
  checkSame type integers source items
  return if shape.length = 1 then integers else cells.map gridCell

/-! ### Columns with missing cells -/

/-- A cell as a number, if it can be read as one; a missing one is none. -/
def cellNumber? (v : Value) : Except ColumnFault (Option Number) :=
  if v.isMissing then .ok none
  else match v with
    | .sized (.datetime64 _) _ => .error .wrongType
    | v => match v.plain with
      | .number n => .ok (some n)
      | .bool b => .ok (some (.int (if b then 1 else 0)))
      | .text s => match Double.ofText? s with
        | some x => .ok (if x = .nan then none else some (.double x))
        | none => .error (.cell (.notNumber (.text s)))
      | _ => .error .wrongType

/-- A cell as a double of some format; a missing one is null. -/
def nullableFloatCell (format : FloatFormat) (v : Value) : Except ColumnFault Value := do
  match ← cellNumber? v with
  | some n => return .double (n.toDouble.throughFormat format)
  | none => return .null

/-- A cell as a whole number, if it is not missing. -/
def wholeCell? (v : Value) : Except ColumnFault (Option Int) :=
  match v.asText? with
  | some s => match Double.wholeOfText? s with
    | some i => .ok (some i)
    | none => .error (.cell (.notInteger (.text s)))
  | none => do
    match ← cellNumber? v with
    | some (.int i) => return some i
    | some (.double x) => match x.toInt? with
      | some i => return some i
      | none => throw .wrongType
    | none => return none

/-- A cell as a whole number of a type; a missing one is null. -/
def nullableIntCell (type : ScalarType) (v : Value) : Except ColumnFault Value := do
  match ← wholeCell? v with
  | some i => if type.wrap i = i then return .int i else throw .wrongType
  | none => return .null

/-- Cells as truth values, all of them given as such or all as numbers; a missing one is null. -/
def storeTruths (cells : List Value) : Except ColumnFault (List Value) := do
  let isTruth (v : Value) : Bool := match v.plain with
    | .bool _ => true
    | _ => false
  let present := cells.filter fun v => !v.isMissing
  unless present.all isTruth || !present.any isTruth do
    throw .wrongType
  cells.mapM fun v => do
    match ← cellNumber? v with
    | none => return .null
    | some n =>
      if v.asText?.isSome then throw .wrongType
      else if n.isZero then return .bool false
      else if n.numericEq (.int 1) then return .bool true
      else throw .wrongType

/-- A cell as a text; a missing one has a value of its own. -/
def textCell (missing : Value) (v : Value) : Value :=
  if v.isMissing then missing else .text (v.decodeText?.getD v.shown)

/-! ### Points in time -/

/-- Whether a text stands for no point in time. -/
def isMissingInstant (s : String) : Bool :=
  s.isEmpty || ["nat", "NaT", "NAT", "nan", "NaN", "NAN"].contains s

/-- A cell at some position as a point in time; a whole number counts steps from the epoch, another
number nanoseconds. -/
def instantCell (unit : TimeUnit) (position : Nat) (v : Value) : Except ColumnFault Value :=
  match v with
  | .sized (.datetime64 _) _ => .ok (objectCell v)
  | v => match v.asText?, v.plain with
    | some s, _ =>
      if isMissingInstant s then .ok .noInstant
      else match CellMoment.ofText s with
        | .ok m => .ok (.instant m)
        | .error fault => .error (.noMoment s position fault)
    | none, .number (.int i) => .ok (.instant (.ofSteps unit i))
    | none, w => match w with
      | .number (.double x) => match x.truncate? with
        | some count => .ok (.instant (.ofSteps .nanosecond count))
        | none => .ok .noInstant
      | w => if w.isMissing then .ok .noInstant else .error .wrongType

/-! ### Inference -/

/-- What has been seen of a column so far. -/
structure Seen where
  null : Bool := false
  nan : Bool := false
  bool : Bool := false
  complex : Bool := false
  double : Bool := false
  int : Bool := false
  /-- A whole number that needs 64 bits without a sign, or is of a type without a sign. -/
  unsigned : Bool := false
  /-- A negative whole number, or one of a fixed-width type with a sign. -/
  signed : Bool := false
  instant : Bool := false

/-- What is seen of a column with one more whole number, unless it is too large for any type or
needs a sign where others need the room of it.  The latter counts only as long as no cell is null,
because with null cells whole numbers become doubles anyway. -/
def lookInt (seen : Seen) (type : Option ScalarType) (i : Int) : Option Seen :=
  let ofType := (type.bind ScalarType.bits?).map Prod.fst
  let unsigned := seen.unsigned || !Number.fitsSigned i || ofType == some false
  let signed := seen.signed || i < 0 || ofType == some true
  if !(Number.fitsSigned i || Number.fitsUnsigned i) then none
  else if seen.null then some { seen with int := true }
  else if unsigned && signed then none
  else some { seen with int := true, unsigned, signed }

/-- What is seen of a column with one more cell, unless the cells have no type in common; texts
decide the matter at once, so they are left to the caller. -/
def look (seen : Seen) : Value → Option Seen
  | .null => some { seen with null := true }
  | .sized (.datetime64 _) _ => some { seen with instant := true }
  | .sized type (.number (.int i)) => lookInt seen (some type) i
  | v => match v.plain with
    | .bool _ => some { seen with bool := true }
    | .number (.double .nan) => some { seen with nan := true }
    | .number (.double _) => some { seen with double := true }
    | .number (.int i) => lookInt seen none i
    | .complex _ _ => some { seen with complex := true }
    | _ => none

/-- What is seen of all cells together. -/
def lookAll : Seen → List Value → Option Seen
  | seen, [] => some seen
  | seen, v :: vs => match look seen v with
    | some seen => lookAll seen vs
    | none => none

/-- The type of cells that have been seen and are no texts. -/
def typeOf (seen : Seen) : ColumnType :=
  let numeric := seen.double || seen.int || seen.complex
  if seen.instant then if numeric || seen.bool then .object else .instant .second
  else if seen.bool then
    if numeric || seen.null || seen.nan then .object else .scalar .boolean
  else if seen.complex then .scalar .complex128
  else if seen.double then .scalar .float64
  else if seen.int then
    if seen.null || seen.nan then .scalar .float64
    else .integer (if seen.unsigned then .uint64 else .int64)
  else if seen.nan then .scalar .float64
  else .object

/-- Whether a cell stands for a missing text. -/
def isMissingText : Value → Bool
  | .null => true
  | .sized (.datetime64 _) _ => false
  | v => v.isMissing

/-- The type inferred for cells: texts with or without missing cells are texts, cells without a
common type stay as they are. -/
def infer (cells : List Value) : ColumnType :=
  let isText (v : Value) := v.asText?.isSome
  if cells.any isText then
    if cells.all fun v => isText v || isMissingText v then .text else .object
  else match lookAll {} cells with
    | some seen => typeOf seen
    | none => .object

/-! ### Storage -/

/-- The cells of a column of a given type that is no category, as they read back. -/
def storePlain : ColumnType → List Value → Except ColumnFault (List Value)
  | .nullableInt type, cells => cells.mapM (nullableIntCell type)
  | .nullableFloat format, cells => cells.mapM (nullableFloatCell format)
  | .nullableBool, cells => storeTruths cells
  | .nullableText, cells => .ok (cells.map (textCell .null))
  | .text, cells => .ok (cells.map (textCell missingNumber))
  | .scalar type, cells => storeScalars type cells
  | .integer type, cells => storeIntegers type cells
  | .instant unit, cells => cells.zipIdx.mapM fun (v, position) => instantCell unit position v
  | .object, cells | .category, cells => .ok (cells.map objectCell)

/-- Every cell replaced by the first one that is the same key. -/
def shareEqual (cells : List Value) : List Value :=
  cells.map fun v => (cells.find? fun w => w == v).getD v

/-- The cells from `cells`, one at each place where no cell is missing. -/
def fillIn (missing : Value) : List Bool → List Value → List Value
  | [], _ => []
  | true :: places, cells => missing :: fillIn missing places cells
  | false :: places, cells => cells.headD missing :: fillIn missing places cells.tail

/-- The cells of a column of categories.  The type of the categories is inferred from the cells that
are not missing. -/
def storeCategories (cells : List Value) : Except ColumnFault (List Value) := do
  let present := cells.filter fun v => !v.isMissing
  if !present.all Value.isKey then
    throw .wrongType
  let type := infer present
  let stored ← storePlain type present
  let stored := if type = .object then shareEqual stored else stored
  let missing := match type with
    | .instant _ => .noInstant
    | _ => missingNumber
  return fillIn missing (cells.map Value.isMissing) stored

/-- The cells of a column of a given type, as they read back. -/
def store : ColumnType → List Value → Except ColumnFault (List Value)
  | .category, cells => storeCategories cells
  | type, cells => storePlain type cells

end Column

/-- A column of a table. -/
structure Column where
  /-- The name of the column. -/
  name : Value
  /-- The storage type. -/
  type : ColumnType
  /-- The cells, as they read back. -/
  cells : List Value

namespace Column

/-- A column made of cells, of a given type or of the one inferred. -/
def ofCells (name : Value) (cells : List Value) (type : Option ColumnType) :
    Except ColumnFault Column := do
  let type := type.getD (infer cells)
  return ⟨name, type, ← store type cells⟩

/-- The value of a missing cell in a column of some type. -/
def missingCell : ColumnType → Value
  | .nullableInt _ | .nullableFloat _ | .nullableBool | .nullableText => .null
  | .scalar .complex128 => .complex .nan (.zero false)
  | .instant _ => .noInstant
  | _ => missingNumber

/-- A cell beside missing ones: whole numbers have to become doubles. -/
def besideMissing : ColumnType → Value → Value
  | .integer _, .number n => .double n.toDouble
  | _, v => v

/-- A column with missing cells at its end, up to a number of cells. -/
def extendTo (height : Nat) (c : Column) : Column :=
  if c.cells.length < height then
    { c with
      cells := c.cells.map (besideMissing c.type) ++
        List.replicate (height - c.cells.length) (missingCell c.type) }
  else c

end Column

end PropertyGraph
