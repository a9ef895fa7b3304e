import FilterGraph.Text.DecimalDigit

namespace FilterGraph

inductive Switch where
  | help
  | config
  | extensionFolder
  | extension
  | verbose
  | strict
  | json
  deriving DecidableEq, Repr

inductive CommandName where
  | new
  | check
  | explain
  | paths
  | export
  | types
  deriving DecidableEq, Repr

namespace Switch

def names : Switch → List String
  | .help => ["-h", "--help"]
  | .config => ["--config"]
  | .extensionFolder => ["--extension-dir"]
  | .extension => ["--extension"]
  | .verbose => ["-v", "--verbose"]
  | .strict => ["--strict"]
  | .json => ["--json"]

def takesValue : Switch → Bool
  | .config | .extensionFolder | .extension => true
  | _ => false

def common : List Switch := [.config, .extensionFolder, .extension, .verbose]

end Switch

namespace CommandName

def all : List CommandName := [.new, .check, .explain, .paths, .export, .types]

def name : CommandName → String
  | .new => "new"
  | .check => "check"
  | .explain => "explain"
  | .paths => "paths"
  | .export => "export"
  | .types => "types"

def ofName? (s : String) : Option CommandName := all.find? (·.name == s)

def switches (c : CommandName) : List Switch :=
  .help :: (match c with
    | .check => [.strict]
    | .paths | .types => [.json]
    | _ => []) ++ Switch.common

def operands : CommandName → Nat
  | .new | .check | .explain | .paths => 1
  | .export => 2
  | .types => 0

end CommandName

inductive Refusal where
  | helpShown
  | misused
  deriving DecidableEq, Repr

def Refusal.status : Refusal → Nat
  | .helpShown => 0
  | .misused => 2

/-- A word of a command line. A switch may have a text attached: what follows its equals sign, or the
    letters behind the one of a short switch. `mark` are the two dashes that end the switches. -/
inductive Word where
  | operand (s : String)
  | mark
  | switch (s : Switch) (isShort : Bool) (attached? : Option String)
  | unknown
  deriving DecidableEq, Repr

namespace Word

def isNegativeNumber (cs : List Char) : Bool :=
  match if cs.getLast? == some '\n' then cs.dropLast else cs with
  | '-' :: body =>
    let whole := body.takeWhile Text.isDecimalDigit
    match body.drop whole.length with
    | [] => !whole.isEmpty
    | '.' :: fraction => !fraction.isEmpty && fraction.all Text.isDecimalDigit
    | _ => false
  | _ => false

def startsLong (cs : List Char) : Bool := ['-', '-'].isPrefixOf cs

def splitAtEquals (cs : List Char) : List Char × Option (List Char) :=
  let front := cs.takeWhile (· != '=')
  match cs.drop front.length with
  | [] => (front, none)
  | _ :: value => (front, some value)

def spelled? (switches : List Switch) (name : String) : Option Switch :=
  switches.find? fun s => s.names.contains name

def candidates (switches : List Switch) (word : String) : List Word :=
  let cs := word.toList
  let (front, value?) := splitAtEquals cs
  if startsLong cs then
    switches.flatMap fun s => (s.names.filter fun name => front.isPrefixOf name.toList).map fun _ =>
      .switch s false (value?.map String.ofList)
  else
    switches.flatMap fun s => (s.names.filter fun name => name.toList == cs.take 2).map fun _ =>
      .switch s true (some (String.ofList (cs.drop 2)))

def of (switches : List Switch) (word : String) : Except Refusal Word :=
  let cs := word.toList
  if cs.head? != some '-' || cs.length == 1 then .ok (.operand word)
  else
    let isShort := !startsLong cs
    let (front, value?) := splitAtEquals cs
    match spelled? switches word, value?.bind fun _ => spelled? switches (String.ofList front) with
    | some s, _ => .ok (.switch s isShort none)
    | none, some s => .ok (.switch s isShort (value?.map String.ofList))
    | none, none =>
      match candidates switches word with
      | [w] => .ok w
      | _ :: _ :: _ => .error .misused
      | [] => .ok (if isNegativeNumber cs || cs.contains ' ' then .operand word else .unknown)

def ofAll (switches : List Switch) : List String → Except Refusal (List Word)
  | [] => .ok []
  | word :: rest =>
    if word == "--" then .ok (.mark :: rest.map .operand)
    else do
      let w ← of switches word
      let ws ← ofAll switches rest
      return w :: ws

def isPlain : Word → Bool
  | .operand _ | .mark => true
  | _ => false

end Word

/-- What was read from a command line so far; `strays` says that something could not be used. A value of two
    dashes counts for nothing, which leaves its place empty. -/
structure Arguments where
  operands : List (Option String) := []
  switches : List (Switch × Option String) := []
  strays : Bool := false
  deriving DecidableEq, Repr

namespace Arguments

def operandText? : Word → Option String
  | .operand s => some s
  | _ => none

def value? (s : String) : Option String := if s == "--" then none else some s

/-- The next operands, at most as many as are wanted, and what follows them. A mark belongs to the
    operand beside it, which is then taken as it is. -/
def takeOperands : Nat → List Word → List (Option String) × List Word
  | 0, ws => ([], ws)
  | wanted + 1, ws =>
    let front := ws.takeWhile (· == .mark)
    match ws.drop front.length with
    | .operand s :: rest =>
      let back := rest.takeWhile (· == .mark)
      let taken? := if front.isEmpty && back.isEmpty then value? s else some s
      let (more, rest) := takeOperands wanted (rest.drop back.length)
      (taken? :: more, rest)
    | _ => ([], ws)

def shortSwitches (known : List Switch) (s : Switch) : List Char → Except Refusal (List Switch)
  | [] => .error .misused
  | c :: rest =>
    match Word.spelled? known (String.ofList ['-', c]) with
    | none => .error .misused
    | some next =>
      if rest.isEmpty then .ok [s, next] else (shortSwitches known next rest).map (s :: ·)

def addSwitch (a : Arguments) (s : Switch) (value : Option String) : Except Refusal Arguments :=
  if s == .help then .error .helpShown else .ok { a with switches := a.switches ++ [(s, value)] }

def takeSwitch (known : List Switch) (a : Arguments) (s : Switch) (isShort : Bool)
    (attached? : Option String) (rest : List Word) : Except Refusal (Arguments × List Word) :=
  match attached? with
  | some attached =>
    if s.takesValue then do return (← a.addSwitch s (value? attached), rest)
    else if isShort then do
      let found ← shortSwitches known s attached.toList
      return (← found.foldlM (fun a s => a.addSwitch s none) a, rest)
    else .error .misused
  | none =>
    if s.takesValue then
      match rest with
      | .operand following :: rest => do return (← a.addSwitch s (value? following), rest)
      | _ => .error .misused
    else do return (← a.addSwitch s none, rest)

def read (known : List Switch) (wanted : Nat) (fuel : Nat) (a : Arguments) (ws : List Word) :
    Except Refusal Arguments :=
  match fuel, ws with
  | fuel + 1, .switch s isShort attached? :: rest => do
    let (a, rest) ← takeSwitch known a s isShort attached? rest
    read known wanted fuel a rest
  | fuel + 1, .unknown :: rest => read known wanted fuel { a with strays := true } rest
  | fuel + 1, w :: rest =>
    match takeOperands (wanted - a.operands.length) (w :: rest) with
    | ([], _) =>
      read known wanted fuel { a with strays := true } ((w :: rest).dropWhile Word.isPlain)
    | (found, rest) => read known wanted fuel { a with operands := a.operands ++ found } rest
  | _, _ => if a.operands.length < wanted || a.strays then .error .misused else .ok a

def ofWords (c : CommandName) (words : List String) : Except Refusal Arguments := do
  let ws ← Word.ofAll c.switches words
  read c.switches c.operands (ws.length + 1) {} ws

def values (a : Arguments) (s : Switch) : List (Option String) :=
  (a.switches.filter (·.1 == s)).map (·.2)

def has (a : Arguments) (s : Switch) : Bool := a.switches.any (·.1 == s)

end Arguments

def leadingSwitches : List Switch := [.help]

def commandOf? (strays : Bool) : List String → Except Refusal (CommandName × Arguments)
  | [] => .error .misused
  | word :: rest => do
    if word == "--" then throw .misused
    match ← Word.of leadingSwitches word with
    | .operand s =>
      match CommandName.ofName? s with
      | none => throw .misused
      | some c =>
        let a ← Arguments.ofWords c rest
        if strays then throw .misused else return (c, a)
    | .switch s isShort attached? => do
      let (a, _) ← Arguments.takeSwitch leadingSwitches {} s isShort attached? []
      commandOf? (strays || a.strays) rest
    | _ => commandOf? true rest

end FilterGraph
