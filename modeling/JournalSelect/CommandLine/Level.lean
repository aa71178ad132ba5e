namespace JournalSelect.CommandLine

-- Why arguments do not come to a command that can be run.
inductive Halt where
  | help
  | version
  | nothingGiven
  | noCommand
  | unknownCommand
  | unknownArgument
  | unneededValue
  | repeated
  | missingOption
  | missingValue
  | unusableValue
  | malformedValue
deriving DecidableEq, Repr

-- An option with a value. Storing it may fail, and fails if the option has a value already.
structure ValueOption (σ : Type) where
  long : String
  short : Option Char
  store : String → σ → Except Halt σ

structure Flag (σ : Type) where
  long : String
  short : Char
  raise : σ → Except Halt σ

-- What is known at one level of a command line. The value of an option may be attached to it, or follow it
-- as an argument of its own.
structure Level (σ : Type) where
  options : List (ValueOption σ)
  flags : List (Flag σ)

-- An option whose value is not stored yet, or not even known.
structure Pending (σ : Type) where
  option : ValueOption σ
  value : Option String

structure Reading (σ : Type) where
  given : σ
  pending : Option (Pending σ)

namespace Reading

def start (given : σ) : Reading σ where
  given := given
  pending := none

def isAwaiting (r : Reading σ) : Bool :=
  r.pending.any (·.value.isNone)

-- Everything given, with nothing pending any more.
def settle (r : Reading σ) : Except Halt σ :=
  match r.pending with
  | none => .ok r.given
  | some ⟨_, none⟩ => .error .missingValue
  | some ⟨option, some value⟩ => option.store value r.given

def await (r : Reading σ) (option : ValueOption σ) : Except Halt (Reading σ) := do
  let given ← r.settle
  return ⟨given, some ⟨option, none⟩⟩

def attach (r : Reading σ) (option : ValueOption σ) (value : String) : Except Halt (Reading σ) := do
  let given ← option.store value (← r.settle)
  return ⟨given, none⟩

def raise (r : Reading σ) (flag : Flag σ) : Except Halt (Reading σ) := do
  let given ← flag.raise (← r.settle)
  return ⟨given, none⟩

-- A word is the value that a pending option waits for.
def supply (r : Reading σ) (word : String) : Reading σ :=
  { r with pending := r.pending.map fun pending => { pending with value := some word } }

end Reading

-- What an argument looks like before the options are known.
inductive Shape where
  | escape
  | long (name : String) (value : Option String)
  | shorts (letters : List Char)
  | word
deriving DecidableEq, Repr

-- A lone dash is a word.
def shapeOf (arg : String) : Shape :=
  match arg.toList with
  | ['-', '-'] => .escape
  | '-' :: '-' :: cs =>
    let name := String.ofList (cs.takeWhile (· != '='))
    match cs.dropWhile (· != '=') with
    | [] => .long name none
    | _ :: value => .long name (some (String.ofList value))
  | '-' :: c :: cs => .shorts (c :: cs)
  | _ => .word

namespace Level

def longOption? (level : Level σ) (name : String) : Option (ValueOption σ) :=
  level.options.find? (·.long == name)

def shortOption? (level : Level σ) (letter : Char) : Option (ValueOption σ) :=
  level.options.find? (·.short == some letter)

def longFlag? (level : Level σ) (name : String) : Option (Flag σ) :=
  level.flags.find? (·.long == name)

def shortFlag? (level : Level σ) (letter : Char) : Option (Flag σ) :=
  level.flags.find? (·.short == letter)

def readLong (level : Level σ) (name : String) (value : Option String) (r : Reading σ) :
    Except Halt (Reading σ) :=
  match level.longOption? name, level.longFlag? name, value with
  | some option, _, some value => r.attach option value
  | some option, _, none => r.await option
  | none, some flag, none => r.raise flag
  | none, some _, some _ => .error .unneededValue
  | none, none, _ => .error .unknownArgument

-- Letters of flags, and at most one letter of an option at the end. What follows that letter is its
-- value, behind an equals sign or not.
def readShorts (level : Level σ) : List Char → Reading σ → Except Halt (Reading σ)
  | [], r => .ok r
  | letter :: rest, r =>
    match level.shortOption? letter, level.shortFlag? letter with
    | some option, _ =>
      match rest with
      | [] => r.await option
      | '=' :: value => r.attach option (String.ofList value)
      | value => r.attach option (String.ofList value)
    | none, some flag => do level.readShorts rest (← r.raise flag)
    | none, none => .error .unknownArgument

-- Reads options up to the first word that is no value, or up to the mark behind which there are none. The
-- result says whether there was such a mark, and what is left.
def read (level : Level σ) : List String → Reading σ → Except Halt (Reading σ × Bool × List String)
  | [], r => .ok (r, false, [])
  | arg :: args, r =>
    match shapeOf arg with
    | .escape => .ok (r, true, args)
    | .long name value => do level.read args (← level.readLong name value r)
    | .shorts letters => do level.read args (← level.readShorts letters r)
    | .word => if r.isAwaiting then level.read args (r.supply arg) else .ok (r, false, arg :: args)

end Level

end JournalSelect.CommandLine
