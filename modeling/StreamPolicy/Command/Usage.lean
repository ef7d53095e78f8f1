import StreamPolicy.Listing.Applicable
import StreamPolicy.Text.Integer
import StreamPolicy.Text.Search

/-!
# Words of a command line

An option is written by its name behind two hyphens, or by its letter behind one, and may take a
value: behind an equals sign, behind its letter, or in the next word. Other words are operands, or
the name of a subcommand with words of its own. Behind a word of two hyphens all words are operands.
-/

namespace StreamPolicy.Command

inductive UsageError where
  | help
  | version
  | nothing
  | unknownCommand
  /-- A word is no option, or one operand too many. -/
  | unknownArgument
  | missingValue
  | badValue
  | unwantedValue
  | conflict
  | missingOperand
  | missingCommand
  deriving DecidableEq, Repr

namespace UsageError

def name : UsageError → String
  | .help => "DisplayHelp"
  | .version => "DisplayVersion"
  | .nothing => "DisplayHelpOnMissingArgumentOrSubcommand"
  | .unknownCommand => "InvalidSubcommand"
  | .unknownArgument => "UnknownArgument"
  | .missingValue => "InvalidValue"
  | .badValue => "ValueValidation"
  | .unwantedValue => "TooManyValues"
  | .conflict => "ArgumentConflict"
  | .missingOperand => "MissingRequiredArgument"
  | .missingCommand => "MissingSubcommand"

/-- The exit code: zero when help or the version was asked for. -/
def exitCode : UsageError → Nat
  | .help => 0
  | .version => 0
  | _ => 2

end UsageError

inductive ValueKind where
  | text
  /-- A path, which is not empty. -/
  | path
  | count
  | pair
  | view
  deriving DecidableEq, Repr

/-- The name and the value that a text writes; the name is not empty. -/
def pair? (s : String) : Option (String × String) :=
  (Text.splitOnce? s '=').filter fun p => p.1 ≠ ""

def ValueKind.error? (kind : ValueKind) (s : String) : Option UsageError :=
  match kind with
  | .text => none
  | .path => if s = "" then some .missingValue else none
  | .count => if (Text.uint64? s).isSome then none else some .badValue
  | .pair => if (pair? s).isSome then none else some .badValue
  | .view => if (View.ofName s).toOption.isSome then none else some .badValue

/-- What an option does. -/
inductive Effect where
  | help
  | version
  | flag
  | once (kind : ValueKind)
  | many (kind : ValueKind)
  deriving DecidableEq, Repr

def Effect.valueKind? : Effect → Option ValueKind
  | .once kind => some kind
  | .many kind => some kind
  | _ => none

structure Switch where
  name : String
  letter : Option Char
  effect : Effect
  deriving DecidableEq, Repr

/-- What the words of one level may be. -/
structure Grammar where
  switches : List Switch
  hasOperand : Bool
  commands : List String

namespace Grammar

def named? (g : Grammar) (name : String) : Option Switch :=
  g.switches.find? fun s => s.name = name

def lettered? (g : Grammar) (letter : Char) : Option Switch :=
  g.switches.find? fun s => s.letter = some letter

end Grammar

def helpCommand : String := "help"

/-- What has been read of the words of one level. -/
structure Words where
  /-- The options with their values, in order; an option without a value has an empty one. -/
  given : List (String × String)
  operand : Option String
  /-- An option whose value may still be refused, and the value if it has come. -/
  pending : Option (Switch × Option String)
  onlyOperands : Bool

namespace Words

def empty : Words :=
  ⟨[], none, none, false⟩

def value? (w : Words) (name : String) : Option String :=
  (w.given.find? fun g => g.1 = name).map Prod.snd

def values (w : Words) (name : String) : List String :=
  (w.given.filter fun g => g.1 = name).map Prod.snd

def has (w : Words) (name : String) : Bool :=
  (w.value? name).isSome

/-- An option is taken with its value, unless it was taken before and may be taken only once. -/
def accept (w : Words) (s : Switch) (value : Option String) : Except UsageError Words :=
  let added : Words := { w with given := w.given ++ [(s.name, value.getD "")] }
  match s.effect with
  | .help => .error .help
  | .version => .error .version
  | .flag => if w.has s.name then .error .conflict else .ok added
  | .once kind =>
    match value with
    | none => .error .missingValue
    | some v =>
      if w.has s.name then .error .conflict
      else
        match kind.error? v with
        | some e => .error e
        | none => .ok added
  | .many kind =>
    match value with
    | none => .error .missingValue
    | some v =>
      match kind.error? v with
      | some e => .error e
      | none => .ok added

/-- The option that is pending is taken. -/
def settle (w : Words) : Except UsageError Words :=
  match w.pending with
  | none => .ok w
  | some (s, value) => accept { w with pending := none } s value

def take (w : Words) (s : Switch) (value : Option String) : Except UsageError Words :=
  w.settle.bind fun w => w.accept s value

/-- The option that is pending is taken, and another one waits for its value. -/
def await (w : Words) (s : Switch) : Except UsageError Words :=
  w.settle.map fun w => { w with pending := some (s, none) }

def isWaiting (w : Words) : Bool :=
  match w.pending with
  | some (_, none) => true
  | _ => false

def readLong (g : Grammar) (w : Words) (text : String) : Except UsageError Words :=
  let (name, value) : String × Option String :=
    match Text.splitOnce? text '=' with
    | some (name, value) => (name, some value)
    | none => (text, none)
  match g.named? name with
  | none => .error .unknownArgument
  | some s =>
    match s.effect.valueKind?, value with
    | some _, some v => w.take s (some v)
    | some _, none => w.await s
    | none, some _ => .error .unwantedValue
    | none, none => w.take s none

def readLetters (g : Grammar) (w : Words) : List Char → Except UsageError Words
  | [] => .ok w
  | c :: cs =>
    match g.lettered? c with
    | none => .error .unknownArgument
    | some s =>
      match s.effect.valueKind?, cs with
      | some _, [] => w.await s
      | some _, '=' :: v => w.take s (some (String.ofList v))
      | some _, v => w.take s (some (String.ofList v))
      | none, cs =>
        match w.take s none with
        | .error e => .error e
        | .ok w => readLetters g w cs

def readOperand (g : Grammar) (w : Words) (word : String) : Except UsageError Words :=
  if g.hasOperand && w.operand.isNone then
    w.settle.map fun w => { w with operand := some word }
  else if g.commands.isEmpty then .error .unknownArgument
  else if w.onlyOperands && (word = helpCommand || word ∈ g.commands) then .error .unknownArgument
  else .error .unknownCommand

/-- The words behind the subcommand for help: they must name a subcommand, which has none itself. -/
def helpFor (g : Grammar) : List String → UsageError
  | [] => .help
  | [word] => if word = helpCommand || word ∈ g.commands then .help else .unknownCommand
  | _ => .unknownCommand

def readWord (g : Grammar) (w : Words) (word : String) : Except UsageError Words :=
  if w.onlyOperands then w.readOperand g word
  else
    match word.toList with
    | ['-', '-'] => .ok { w with onlyOperands := true }
    | '-' :: '-' :: cs => w.readLong g (String.ofList cs)
    | '-' :: c :: cs => w.readLetters g (c :: cs)
    | _ =>
      match w.pending with
      | some (s, none) => .ok { w with pending := some (s, some word) }
      | _ => w.readOperand g word

/-- The words of one level, up to a subcommand, which is given with the words behind it. -/
def read (g : Grammar) (w : Words) :
    List String → Except UsageError (Words × Option (String × List String))
  | [] => .ok (w, none)
  | word :: rest =>
    if !w.onlyOperands && !w.isWaiting && word ∈ g.commands then .ok (w, some (word, rest))
    else if !w.onlyOperands && !w.isWaiting && !g.commands.isEmpty && word = helpCommand then
      .error (helpFor g rest)
    else
      match w.readWord g word with
      | .error e => .error e
      | .ok w => read g w rest

end Words

end StreamPolicy.Command
