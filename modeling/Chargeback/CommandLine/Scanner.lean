import Chargeback.Text.Search

/-!
# Scanning a command line

A command line is scanned from the left. Options begin with two hyphens, or with one hyphen and a
letter; several letters may share a hyphen, and a value may follow its option directly, behind an
equals sign, or as the next argument. No option may be given twice. The name of a command ends the
scan, and what follows belongs to that command. Behind two hyphens alone everything is a word.
-/

namespace Chargeback.CommandLine

/-- Why there is nothing to run. -/
inductive Stop where
  /-- The command line makes no sense. -/
  | misuse
  /-- The user asks how the program is used. -/
  | help
  /-- The user asks for the version. -/
  | version
deriving DecidableEq, Repr

/-- An option. -/
structure Choice where
  name : String
  /-- Its letter, if it has one. -/
  letter : Option Char
  /-- Which values it accepts; a switch has none. -/
  accepts : Option (String → Bool)

/-- What may stand on a command line. -/
structure Grammar where
  choices : List Choice
  /-- How many words there may be. -/
  words : Nat
  /-- The commands, each with the commands below it. -/
  commands : List (String × List String)
  /-- Whether the version may be asked for. -/
  versioned : Bool

/-- What has been found on a command line. -/
structure Found where
  /-- The options by name, each with its value; a switch has an empty one. -/
  values : List (String × String)
  /-- The words in order. -/
  words : List String
  /-- The command, and the arguments that belong to it. -/
  command : Option (String × List String)

/-- What has been found so far, and what is expected next. -/
structure Progress where
  found : Found
  /-- The option whose value comes next. -/
  pending : Option Choice
  /-- Whether only words follow. -/
  wordsOnly : Bool

namespace Choice

/-- A switch. -/
def switch (name : String) (letter : Option Char) : Choice := ⟨name, letter, none⟩

/-- An option with any value. -/
def any (name : String) (letter : Option Char) : Choice := ⟨name, letter, some fun _ => true⟩

/-- An option with a path, which is not empty. -/
def path (name : String) (letter : Option Char) : Choice := ⟨name, letter, some (· ≠ "")⟩

end Choice

namespace Found

/-- The value of an option, if it is given. -/
def value? (f : Found) (name : String) : Option String := f.values.lookup name

/-- Whether a switch is given. -/
def has (f : Found) (name : String) : Bool := (f.value? name).isSome

end Found

namespace Progress

/-- Nothing is found yet. -/
def start : Progress := ⟨⟨[], [], none⟩, none, false⟩

/-- Takes the value of an option, which must not be given already. -/
def give (p : Progress) (c : Choice) (value : String) : Except Stop Progress :=
  if p.found.has c.name then .error .misuse
  else if (c.accepts.map fun accepts => accepts value).getD true then
    .ok { p with
      found := { p.found with values := (c.name, value) :: p.found.values }
      pending := none }
  else .error .misuse

/-- Takes a word, if there may be one more. -/
def word (p : Progress) (g : Grammar) (s : String) : Except Stop Progress :=
  if p.found.words.length < g.words then
    .ok { p with found := { p.found with words := p.found.words ++ [s] } }
  else .error .misuse

/-- Takes an option by its name, with its value if that follows an equals sign. -/
def long (p : Progress) (g : Grammar) (s : List Char) : Except Stop Progress :=
  let (name, value) := match Text.cutAt? '=' s with
    | some (name, value) => (String.ofList name, some (String.ofList value))
    | none => (String.ofList s, none)
  if name = "help" ∧ value = none then .error .help
  else if name = "version" ∧ g.versioned ∧ value = none then .error .version
  else match g.choices.find? (·.name == name), value with
    | none, _ => .error .misuse
    | some c, some value => if c.accepts.isSome then p.give c value else .error .misuse
    | some c, none =>
      if c.accepts.isSome then .ok { p with pending := some c } else p.give c ""

/-- Takes options by their letters; the last one may have its value behind it. -/
def short (p : Progress) (g : Grammar) : List Char → Except Stop Progress
  | [] => .ok p
  | letter :: rest =>
    if letter = 'h' then .error .help
    else if letter = 'V' ∧ g.versioned then .error .version
    else match g.choices.find? (·.letter == some letter) with
      | none => .error .misuse
      | some c =>
        if c.accepts.isNone then
          match p.give c "" with
          | .ok p => p.short g rest
          | .error e => .error e
        else match rest with
          | [] => .ok { p with pending := some c }
          | '=' :: value => p.give c (String.ofList value)
          | value => p.give c (String.ofList value)

/-- Takes an argument that is no command. -/
def argument (p : Progress) (g : Grammar) (s : String) : Except Stop Progress :=
  match p.pending, s.toList with
  | some _, '-' :: _ :: _ => .error .misuse
  | some c, _ => p.give c s
  | none, ['-', '-'] => if p.wordsOnly then p.word g s else .ok { p with wordsOnly := true }
  | none, '-' :: '-' :: name => if p.wordsOnly then p.word g s else p.long g name
  | none, '-' :: letter :: rest => if p.wordsOnly then p.word g s else p.short g (letter :: rest)
  | none, _ => p.word g s

end Progress

namespace Grammar

/-- Whether words behind a request for help name a command. -/
def isTopic (g : Grammar) : List String → Bool
  | [] => true
  | [command] => command = "help" || (g.commands.lookup command).isSome
  | [command, sub] => match g.commands.lookup command with
    | some subs => !subs.isEmpty && (sub = "help" || subs.contains sub)
    | none => false
  | _ => false

/-- Scans the arguments behind what has been found. -/
def scanFrom (g : Grammar) (p : Progress) : List String → Except Stop Found
  | [] => if p.pending.isSome then .error .misuse else .ok p.found
  | s :: rest =>
    if p.pending.isNone && !p.wordsOnly && !g.commands.isEmpty && s = "help" then
      .error (if g.isTopic rest then .help else .misuse)
    else if p.pending.isNone && !p.wordsOnly && (g.commands.lookup s).isSome then
      .ok { p.found with command := some (s, rest) }
    else match p.argument g s with
      | .ok p => g.scanFrom p rest
      | .error e => .error e

/-- Scans a command line. -/
def scan (g : Grammar) (arguments : List String) : Except Stop Found := g.scanFrom .start arguments

end Grammar

end Chargeback.CommandLine
