import FilterGraph.Binary64
import FilterGraph.Calendar

namespace FilterGraph

inductive Scalar where
  | null
  | bool (b : Bool)
  | int (n : Int)
  | float (x : Binary64)
  | text (s : String)
  | bytes (bytes : List UInt8)
  | date (d : Date)
  | dateTime (t : DateTime)
  deriving DecidableEq, Repr

/-- `named` names a collection that contains itself and `again` is that collection further in. -/
inductive Value where
  | scalar (s : Scalar)
  | list (items : List Value)
  | tuple (items : List Value)
  | set (items : List Scalar)
  | map (entries : List (Scalar × Value))
  | named (name : Nat) (v : Value)
  | again (name : Nat)
  deriving Repr, Inhabited

namespace Scalar

def number? : Scalar → Option Int
  | .bool b => some (if b then 1 else 0)
  | .int n => some n
  | .float x => x.toInt?
  | _ => none

def instant? : Scalar → Option Int
  | .dateTime t => t.instant?
  | _ => none

/-- Keys are the same when they are equal: numbers and truth values by what they count as, times by
    their instants. -/
def sameKey (a b : Scalar) : Bool :=
  a == b || (a.number?.isSome && a.number? == b.number?) ||
    (a.instant?.isSome && a.instant? == b.instant?)

end Scalar

namespace Value

def null : Value := .scalar .null
def bool (b : Bool) : Value := .scalar (.bool b)
def int (n : Int) : Value := .scalar (.int n)
def float (x : Binary64) : Value := .scalar (.float x)
def text (s : String) : Value := .scalar (.text s)

def record (fields : List (String × Value)) : Value :=
  .map (fields.map fun (name, value) => (.text name, value))

def texts (ss : List String) : Value := .list (ss.map text)

mutual

def replace (name : Nat) (w : Value) : Value → Value
  | .scalar s => .scalar s
  | .list items => .list (replaceItems name w items)
  | .tuple items => .tuple (replaceItems name w items)
  | .set items => .set items
  | .map entries => .map (replaceEntries name w entries)
  | .named other v => if other = name then .named other v else .named other (replace name w v)
  | .again other => if other = name then w else .again other

def replaceItems (name : Nat) (w : Value) : List Value → List Value
  | [] => []
  | item :: rest => replace name w item :: replaceItems name w rest

def replaceEntries (name : Nat) (w : Value) : List (Scalar × Value) → List (Scalar × Value)
  | [] => []
  | (key, value) :: rest => (key, replace name w value) :: replaceEntries name w rest

end

def unfolded : Value → Value
  | .named name v => replace name (.named name v) v
  | v => v

def isNull : Value → Bool
  | .scalar .null => true
  | _ => false

def text? : Value → Option String
  | .scalar (.text s) => some s
  | _ => none

def list? (v : Value) : Option (List Value) :=
  match v.unfolded with
  | .list items => some items
  | _ => none

def entries? (v : Value) : Option (List (Scalar × Value)) :=
  match v.unfolded with
  | .map entries => some entries
  | _ => none

def items? (v : Value) : Option (List Value) :=
  match v.unfolded with
  | .list items => some items
  | .tuple items => some items
  | .set items => some (items.map .scalar)
  | _ => none

def isTruthy : Value → Bool
  | .scalar .null => false
  | .scalar (.bool b) => b
  | .scalar (.int n) => n != 0
  | .scalar (.float x) => !x.isZero
  | .scalar (.text s) => !s.isEmpty
  | .scalar (.bytes bytes) => !bytes.isEmpty
  | .scalar (.date _) => true
  | .scalar (.dateTime _) => true
  | .list items => !items.isEmpty
  | .tuple items => !items.isEmpty
  | .set items => !items.isEmpty
  | .map entries => !entries.isEmpty
  | .named _ v => v.isTruthy
  | .again _ => true

end Value

abbrev Entries (α β : Type) := List (α × β)

namespace Entries

def setBy {α β : Type} (same : α → α → Bool) (key : α) (value : β) : Entries α β → Entries α β
  | [] => [(key, value)]
  | (k, v) :: rest =>
    if same k key then (k, value) :: rest else (k, v) :: setBy same key value rest

def set {α β : Type} [BEq α] (key : α) (value : β) (entries : Entries α β) : Entries α β :=
  setBy (· == ·) key value entries

/-- The entries of a map that is written with repeated keys: the last value, in the first place. -/
def ofRepeated (entries : List (Scalar × Value)) : Entries Scalar Value :=
  entries.foldl (fun known (key, value) => setBy Scalar.sameKey key value known) []

def get? {α β : Type} [BEq α] (key : α) (entries : Entries α β) : Option β := entries.lookup key

end Entries

def Value.field? (name : String) (v : Value) : Option Value := v.entries?.bind (·.lookup (.text name))

end FilterGraph
