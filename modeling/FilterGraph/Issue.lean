import FilterGraph.Binary64.Text
import FilterGraph.Text.Utf8
import FilterGraph.Value
import FilterGraph.WholeNumber

namespace FilterGraph

inductive Step where
  | field (name : String)
  | key (key : Scalar)
  | index (n : Nat)
  deriving DecidableEq, Repr

inductive IssueKind where
  | missing
  | extraForbidden
  | modelType
  | stringType
  | stringUnicode
  | stringPattern
  | intType
  | intParsing
  | intFromFloat
  | intSize
  | finiteNumber
  | floatType
  | floatParsing
  | boolType
  | boolParsing
  | listType
  | dictType
  | tupleType
  | tooLong
  | invalidKey
  | enum
  | literal
  | noSuchAttribute
  | value (message : String)
  deriving DecidableEq, Repr

namespace IssueKind

def name : IssueKind → String
  | .missing => "missing"
  | .extraForbidden => "extra_forbidden"
  | .modelType => "model_type"
  | .stringType => "string_type"
  | .stringUnicode => "string_unicode"
  | .stringPattern => "string_pattern_mismatch"
  | .intType => "int_type"
  | .intParsing => "int_parsing"
  | .intFromFloat => "int_from_float"
  | .intSize => "int_parsing_size"
  | .finiteNumber => "finite_number"
  | .floatType => "float_type"
  | .floatParsing => "float_parsing"
  | .boolType => "bool_type"
  | .boolParsing => "bool_parsing"
  | .listType => "list_type"
  | .dictType => "dict_type"
  | .tupleType => "tuple_type"
  | .tooLong => "too_long"
  | .invalidKey => "invalid_key"
  | .enum => "enum"
  | .literal => "literal_error"
  | .noSuchAttribute => "no_such_attribute"
  | .value _ => "value_error"

def message? : IssueKind → Option String
  | .value message => some s!"Value error, {message}"
  | _ => none

end IssueKind

structure Issue where
  kind : IssueKind
  way : List Step := []
  deriving DecidableEq, Repr

def Issue.under (step : Step) (i : Issue) : Issue := { i with way := step :: i.way }

/-- A typed value, or every issue in the way of one. -/
abbrev Checked (α : Type) := Except (List Issue) α

namespace Checked

def fail {α : Type} (kind : IssueKind) : Checked α := .error [⟨kind, []⟩]

def under {α : Type} (step : Step) : Checked α → Checked α := Except.mapError (·.map (Issue.under step))

def both {α β : Type} : Checked α → Checked β → Checked (α × β)
  | .ok a, .ok b => .ok (a, b)
  | .ok _, .error e => .error e
  | .error e, .ok _ => .error e
  | .error e, .error f => .error (e ++ f)

def apply {α β : Type} (a : Checked α) (f : Checked (α → β)) : Checked β :=
  (both f a).map fun (f, a) => f a

def all {α : Type} : List (Checked α) → Checked (List α)
  | [] => .ok []
  | c :: rest => (both c (all rest)).map fun (a, as) => a :: as

/-- The second check counts only for its issues. -/
def andAlso {α : Type} (a : Checked α) (b : Checked Unit) : Checked α := (both a b).map (·.1)

def decoded (kind : IssueKind) (bytes : List UInt8) : Checked String :=
  match Utf8.decode bytes with
  | .ok cs => .ok (String.ofList cs)
  | .error _ => fail kind

def string : Value → Checked String
  | .scalar (.text s) => .ok s
  | .scalar (.bytes bytes) => decoded .stringUnicode bytes
  | _ => fail .stringType

def matching (pattern : List Char → Bool) (v : Value) : Checked String := do
  let s ← string v
  if pattern s.toList then return s else fail .stringPattern

def named {α : Type} (kind : IssueKind) (ofName? : String → Option α) (s : String) : Checked α :=
  match ofName? s with
  | some a => .ok a
  | none => fail kind

def choice {α : Type} (ofName? : String → Option α) : Value → Checked α
  | .scalar (.text s) => named .literal ofName? s
  | _ => fail .literal

def member {α : Type} (ofName? : String → Option α) : Value → Checked α
  | .scalar (.text s) => named .enum ofName? s
  | .scalar (.bytes bytes) => decoded .enum bytes >>= named .enum ofName?
  | _ => fail .enum

def truthWords : List (String × Bool) :=
  [("0", false), ("f", false), ("n", false), ("no", false), ("off", false), ("false", false),
    ("1", true), ("t", true), ("y", true), ("yes", true), ("on", true), ("true", true)]

def truth (n : Int) : Checked Bool :=
  if n = 0 then .ok false else if n = 1 then .ok true else fail .boolParsing

def truthWord (s : String) : Checked Bool :=
  match truthWords.lookup (String.ofList (s.toList.map Char.toLower)) with
  | some b => .ok b
  | none => fail .boolParsing

def bool : Value → Checked Bool
  | .scalar (.bool b) => .ok b
  | .scalar (.text s) => truthWord s
  | .scalar (.bytes bytes) => decoded .boolParsing bytes >>= truthWord
  | .scalar (.int n) => if -(Int.pow 2 63) ≤ n && n < Int.pow 2 63 then truth n else fail .boolType
  | .scalar (.float x) =>
    match x.toInt? with
    | some n => if -(Int.pow 2 63) < n && n < Int.pow 2 63 then truth n else fail .boolType
    | none => fail .boolType
  | _ => fail .boolType

def intOfText (s : String) : Checked Int :=
  match WholeNumber.read s with
  | .ok n => .ok n
  | .error .malformed => fail .intParsing
  | .error .tooLong => fail .intSize

def int : Value → Checked Int
  | .scalar (.int n) => .ok n
  | .scalar (.bool b) => .ok (if b then 1 else 0)
  | .scalar (.float x) =>
    if !x.isFinite then fail .finiteNumber
    else match x.toInt? with
      | none => fail .intFromFloat
      | some n => if -(Int.pow 2 63) < n && n < Int.pow 2 63 then .ok n else fail .intSize
  | .scalar (.text s) => intOfText s
  | .scalar (.bytes bytes) => decoded .intParsing bytes >>= intOfText
  | _ => fail .intType

def number? (s : String) : Option Binary64 :=
  match Binary64.ofChars? (Text.trimNumber s.toList) with
  | some x => some x
  | none =>
    let cs := s.toList
    let doubled := (cs.zip (cs.drop 1)).any fun (a, b) => a == '_' && b == '_'
    if cs.head? == some '_' || cs.getLast? == some '_' || doubled then none
    else Binary64.ofChars? (cs.filter (· != '_'))

def floatOfText (s : String) : Checked Binary64 :=
  match number? s with
  | some x => .ok x
  | none => fail .floatParsing

def float : Value → Checked Binary64
  | .scalar (.float x) => .ok x
  | .scalar (.int n) =>
    let x := Binary64.ofInt n
    if x.isFinite then .ok x else fail .floatType
  | .scalar (.bool b) => .ok (.ofBool b)
  | .scalar (.text s) => floatOfText s
  | .scalar (.bytes bytes) => decoded .floatParsing bytes >>= floatOfText
  | _ => fail .floatType

def nullable {α : Type} (item : Value → Checked α) (v : Value) : Checked (Option α) :=
  if v.isNull then .ok none else (item v).map some

def list {α : Type} (item : Value → Checked α) (v : Value) : Checked (List α) :=
  match v.items? with
  | some items => all (items.zipIdx.map fun (v, i) => (item v).under (.index i))
  | none => fail .listType

/-- A map from texts; a bad key is found at the key itself. Of two keys that read as one text the later
    has the say, in the place of the earlier. -/
def dict {α : Type} (item : Value → Checked α) (v : Value) : Checked (Entries String α) :=
  match v.entries? with
  | some entries =>
    let found := all (entries.map fun (k, v) =>
      let name := (string (.scalar k)).under (.field "[key]")
      (both name (item v)).under (.key k))
    found.map fun fields => fields.foldl (fun known (name, a) => Entries.set name a known) []
  | none => fail .dictType

def pair {α : Type} (item : Value → Checked α) (v : Value) : Checked (α × α) :=
  match v.items? with
  | some items =>
    let nth (i : Nat) : Checked α :=
      (match items[i]? with
        | some v => item v
        | none => fail .missing).under (.index i)
    let found := both (nth 0) (nth 1)
    if items.length > 2 then andAlso found (fail .tooLong) else found
  | none => fail .tupleType

def field {α : Type} (name : String) (item : Value → Checked α) (absent : Checked α)
    (entries : List (Scalar × Value)) : Checked α :=
  (match entries.lookup (Scalar.text name) with
    | some v => item v
    | none => absent).under (.field name)

def required {α : Type} (name : String) (item : Value → Checked α) (entries : List (Scalar × Value)) :
    Checked α :=
  field name item (fail .missing) entries

def defaulted {α : Type} (name : String) (item : Value → Checked α) (default : α)
    (entries : List (Scalar × Value)) : Checked α :=
  field name item (.ok default) entries

def noOthers (known : List String) (entries : List (Scalar × Value)) : Checked Unit :=
  (all (entries.filterMap fun (k, _) =>
    match k with
    | .text name => if known.contains name then none else some ((fail .extraForbidden).under (.key k))
    | _ => some ((fail .invalidKey).under (.key k)))).map fun (_ : List Unit) => ()

def record {α : Type} (fields : List (Scalar × Value) → Checked α) (v : Value) : Checked α :=
  match v.entries? with
  | some entries => fields entries
  | none => fail .modelType

def ensure {α : Type} (problem? : α → Option String) (a : α) : Checked α :=
  match problem? a with
  | none => .ok a
  | some message => fail (.value message)

end Checked
end FilterGraph
