/-!
# Arguments

The words of a command line.  A word that begins with two hyphens names an option, and may hold a
value behind an equals sign.  A word that begins with one hyphen holds the letters of options; what
follows the letter of an option that takes a value is its value.  Any other word is a value of the
option before it.  Nothing but options may follow, so the mark `--`, behind which words are no
options, must be the last one.

The values of an option are looked at when the next option arrives or the words end.

## Main definitions

* `UsageError`: what is wrong with a command line.
* `Argument`, `Argument.Action`: an option, and what it does to the settings.
* `Argument.readAll`: the settings that the words of a command line make.
-/

namespace Matchday

/-- What is wrong with the words of a command line. -/
inductive UsageError where
  | unknownArgument
  | missingArgument
  | repeatedArgument
  | missingValue
  | malformedValue
  | unwantedValue
  | helpRequested
deriving DecidableEq, Repr, Inhabited

/-- What an option does to the settings gathered so far. -/
inductive Argument.Action (σ : Type) where
  /-- Takes no value and comes once. -/
  | flag (set : σ → σ)
  /-- Takes one value and comes once. -/
  | value (set : σ → String → Except UsageError σ)
  /-- Takes one value or more. -/
  | values (add : σ → String → Except UsageError σ)
  /-- Asks for help. -/
  | help

/-- An option of a command line. -/
structure Argument (σ : Type) where
  name : String
  letter : Option Char := none
  action : Argument.Action σ

namespace Argument

variable {σ : Type}

/-- Whether an argument has a value behind it. -/
def takesValue (a : Argument σ) : Bool :=
  match a.action with
  | .value _ | .values _ => true
  | .flag _ | .help => false

/-- Whether an argument may be given several times. -/
def takesMany (a : Argument σ) : Bool :=
  match a.action with
  | .values _ => true
  | .flag _ | .value _ | .help => false

/-- How far the words have been read. -/
structure Progress (σ : Type) where
  settings : σ
  /-- The names of the options that came. -/
  given : List String := []
  /-- The option whose values are still to be looked at, with these values. -/
  pending : Option (Argument σ × List String) := none

namespace Progress

/-- Marks an option as given.  One that comes once must not be given again. -/
def mark (p : Progress σ) (a : Argument σ) : Except UsageError (Progress σ) :=
  if p.given.contains a.name && !a.takesMany then .error .repeatedArgument
  else .ok { p with given := a.name :: p.given }

/-- Looks at an option and its values. -/
def apply (p : Progress σ) (a : Argument σ) (values : List String) :
    Except UsageError (Progress σ) := do
  if a.takesValue && values.isEmpty then throw .missingValue
  match a.action with
  | .help => throw .helpRequested
  | .flag set =>
    let p ← p.mark a
    return { p with settings := set p.settings }
  | .value set | .values set =>
    let p ← p.mark a
    return { p with settings := ← values.foldlM set p.settings }

/-- Looks at the option whose values are still to be looked at. -/
def settle (p : Progress σ) : Except UsageError (Progress σ) :=
  match p.pending with
  | none => .ok p
  | some (a, values) => { p with pending := none }.apply a values

/-- An option arrives, perhaps with a value in the same word. -/
def arrive (p : Progress σ) (a : Argument σ) (value : Option String) :
    Except UsageError (Progress σ) := do
  let p ← p.settle
  match value with
  | some value => p.apply a [value]
  | none => if a.takesValue then return { p with pending := some (a, []) } else p.apply a []

/-- A value arrives in a word of its own. -/
def push (p : Progress σ) (value : String) : Except UsageError (Progress σ) :=
  match p.pending with
  | some (a, values) =>
    if values.isEmpty || a.takesMany then
      .ok { p with pending := some (a, values ++ [value]) }
    else .error .unknownArgument
  | none => .error .unknownArgument

end Progress

/-- The value behind the letter of an option; an equals sign may lead it in. -/
def attached? : List Char → Option String
  | [] => none
  | '=' :: cs => some (String.ofList cs)
  | cs => some (String.ofList cs)

/-- Reads the letters of options. -/
def readLetters (arguments : List (Argument σ)) (p : Progress σ) :
    List Char → Except UsageError (Progress σ)
  | [] => .ok p
  | c :: cs =>
    match arguments.find? fun a => a.letter == some c with
    | none => .error .unknownArgument
    | some a =>
      if a.takesValue then p.arrive a (attached? cs)
      else do readLetters arguments (← p.arrive a none) cs

/-- Reads the name of an option. -/
def readName (arguments : List (Argument σ)) (p : Progress σ) (cs : List Char) :
    Except UsageError (Progress σ) :=
  let name := String.ofList (cs.takeWhile (· != '='))
  let value := ((cs.dropWhile (· != '=')).tail?).map String.ofList
  match arguments.find? fun a => a.name == name with
  | none => .error .unknownArgument
  | some a =>
    if value.isSome && !a.takesValue then .error .unwantedValue else p.arrive a value

/-- Reads one word, by what it starts with. -/
def readWord (arguments : List (Argument σ)) (p : Progress σ) (word : String) :
    Except UsageError (Progress σ) :=
  match word.toList with
  | '-' :: '-' :: cs => readName arguments p cs
  | '-' :: c :: cs => readLetters arguments p (c :: cs)
  | _ => p.push word

/-- Reads the words of a command line one after another. -/
def readWords (arguments : List (Argument σ)) (p : Progress σ) :
    List String → Except UsageError (Progress σ)
  | [] => p.settle
  | "--" :: words => if words.isEmpty then p.settle else .error .unknownArgument
  | word :: words => do readWords arguments (← readWord arguments p word) words

/-- The settings that the words of a command line make of the settings without words. -/
def readAll (arguments : List (Argument σ)) (settings : σ) (words : List String) :
    Except UsageError σ :=
  (readWords arguments { settings } words).map (·.settings)

/-- The option that asks for help. -/
def help : Argument σ where
  name := "help"
  letter := some 'h'
  action := .help

end Argument

end Matchday
