/-!
# The command line

Words name a command, possibly below another one, and give options at every level. An option that
all commands know counts at the innermost level that gives it. Reading stops at the first word
that does not fit.
-/
namespace VaultAccess.CommandLine

/-- What is done with the settings. -/
inductive SettingsAction where
  | «show»
  | validate
  | init
  deriving DecidableEq, Repr

/-- What is to be done. -/
inductive Command where
  | sync (pretty : Bool)
  | grant (entitlement principal : String)
  | revoke (grant : String)
  | validate
  | settings (action : SettingsAction)
  | version
  deriving DecidableEq, Repr

/-- A command line: a command, and what overrides the settings. -/
structure Invocation where
  /-- The file with the settings. -/
  file : Option String
  address : Option String
  token : Option String
  command : Command
  deriving DecidableEq, Repr

/-- Why a command line names nothing to run. -/
inductive Stop where
  /-- Help was asked for. -/
  | help
  /-- The version was asked for. -/
  | version
  /-- A level names neither a command nor an option. -/
  | nothingGiven
  | missingCommand
  | unknownCommand
  | unknownWord
  | missingValue
  | unwantedValue
  | repeatedOption
  | missingOption
  deriving DecidableEq, Repr

/-- Whether this is what was asked for. -/
def Stop.isAnswer : Stop → Bool
  | help | version => true
  | _ => false

/-! ## Options -/

inductive Flag where
  | config
  | vaultHost
  | vaultToken
  | pretty
  | entitlement
  | principal
  | grant
  | help
  | version
  deriving DecidableEq, Repr

namespace Flag

def name : Flag → String
  | config => "config"
  | vaultHost => "vault-host"
  | vaultToken => "vault-token"
  | pretty => "pretty"
  | entitlement => "entitlement"
  | principal => "principal"
  | grant => "grant"
  | help => "help"
  | version => "version"

/-- The letter that stands for an option. -/
def letter? : Flag → Option Char
  | config => some 'c'
  | entitlement => some 'e'
  | principal => some 'p'
  | grant => some 'g'
  | help => some 'h'
  | version => some 'V'
  | vaultHost | vaultToken | pretty => none

def takesValue : Flag → Bool
  | pretty | help | version => false
  | _ => true

end Flag

/-! ## Levels -/

/-- The commands, and the two that stand above others. -/
inductive Level where
  | top
  | sync
  | grant
  | revoke
  | validate
  | config
  | action (a : SettingsAction)
  | version
  deriving DecidableEq, Repr

namespace Level

/-- The commands below a level. -/
def commands : Level → List (String × Level)
  | top => [("sync", sync), ("grant", grant), ("revoke", revoke), ("validate", validate),
      ("config", config), ("version", version)]
  | config => [("show", action .show), ("validate", action .validate), ("init", action .init)]
  | _ => []

/-- The options that a level knows. -/
def flags (l : Level) : List Flag :=
  [.config, .vaultHost, .vaultToken] ++
    (match l with
      | top => [.version]
      | sync => [.pretty]
      | grant => [.entitlement, .principal]
      | revoke => [.grant]
      | _ => []) ++
    [.help]

def flag? (l : Level) (name : List Char) : Option Flag :=
  l.flags.find? fun f => f.name.toList == name

def flagOfLetter? (l : Level) (c : Char) : Option Flag :=
  l.flags.find? fun f => f.letter? == some c

/-- The level that a word leads to. -/
def command? (l : Level) (word : String) : Option Level := l.commands.lookup word

/-- Whether a word asks for help on the commands of a level. -/
def isHelp (l : Level) (word : String) : Bool := l.commands ≠ [] && word == "help"

end Level

/-! ## Values -/

/-- The options given at a level, in order. -/
abbrev Given := List (Flag × String)

/-- How far a level has been read. -/
structure Progress where
  given : Given
  /-- The last option, which has a value of its own word or still waits for it. -/
  last : Option (Flag × Option String)
  /-- Whether no more options can be given. -/
  isClosed : Bool
  deriving DecidableEq, Repr

namespace Progress

def start : Progress := ⟨[], none, false⟩

/-- Whether the next word is a value unless it is an option. -/
def isWaiting (p : Progress) : Bool := p.last.any fun l => l.2.isNone

/-- Give an option; no option is given twice. -/
def give (p : Progress) (f : Flag) (value : String) : Except Stop Progress :=
  if p.given.any (·.1 == f) then .error .repeatedOption
  else .ok { p with given := p.given ++ [(f, value)], last := none }

/-- Give the last option, which by now must have a value. -/
def settle (p : Progress) : Except Stop Progress :=
  match p.last with
  | none => .ok p
  | some (_, none) => .error .missingValue
  | some (f, some value) => p.give f value

/-- An option and the value that is attached to it, if there is one. -/
def option (p : Progress) (f : Flag) (attached : Option String) : Except Stop Progress := do
  let p ← p.settle
  match f, attached with
  | .help, _ => throw .help
  | .version, _ => throw .version
  | f, some value => p.give f value
  | f, none => if f.takesValue then pure { p with last := some (f, none) } else p.give f ""

/-- An option by its name, with the value after an equals sign. -/
def long (p : Progress) (l : Level) (cs : List Char) : Except Stop Progress :=
  let name := cs.takeWhile (· != '=')
  let attached := match cs.drop name.length with
    | [] => none
    | _ :: value => some (String.ofList value)
  match l.flag? name with
  | none => .error .unknownWord
  | some f =>
    if attached.isSome ∧ !f.takesValue then .error .unwantedValue else p.option f attached

/-- Options by their letters; what follows one that takes a value is its value. -/
def letters (p : Progress) (l : Level) : List Char → Except Stop Progress
  | [] => .ok p
  | c :: rest =>
    match l.flagOfLetter? c with
    | none => .error .unknownWord
    | some f =>
      if f.takesValue then
        p.option f (match rest with
          | [] => none
          | '=' :: value => some (String.ofList value)
          | value => some (String.ofList value))
      else
        match p.option f none with
        | .error s => .error s
        | .ok p => p.letters l rest

end Progress

/-! ## Words -/

/-- What a word is, by how it begins. -/
inductive Word where
  | long (cs : List Char)
  | letters (cs : List Char)
  /-- Two hyphens: what follows is not read as options. -/
  | close
  | plain

def Word.ofText (s : String) : Word :=
  match s.toList with
  | ['-', '-'] => close
  | '-' :: '-' :: cs => long cs
  | ['-'] => plain
  | '-' :: cs => letters cs
  | _ => plain

/-- The fault of a word that is neither an option nor a value nor a command. -/
def strayWord (l : Level) (isClosed : Bool) (word : String) : Stop :=
  if l.commands = [] ∨ (isClosed ∧ ((l.command? word).isSome ∨ l.isHelp word)) then .unknownWord
  else .unknownCommand

/-- Help on the command that words lead to. -/
def helpOn (l : Level) : List String → Stop
  | [] => .help
  | word :: rest =>
    match l.command? word with
    | some below => helpOn below rest
    | none => if l.isHelp word ∧ rest = [] then .help else .unknownCommand

/-- The command that a level with its options stands for. -/
def Level.finish (l : Level) (given : Given) : Except Stop Command :=
  match l with
  | top | config => .error (if given = [] then .nothingGiven else .missingCommand)
  | sync => .ok (.sync (given.lookup .pretty).isSome)
  | grant =>
    match given.lookup .entitlement, given.lookup .principal with
    | some e, some p => .ok (.grant e p)
    | _, _ => .error .missingOption
  | revoke => (given.lookup .grant).elim (.error .missingOption) fun g => .ok (.revoke g)
  | validate => .ok .validate
  | action a => .ok (.settings a)
  | version => .ok .version

/-- The command that words name from a level on, and the options given on the way, those of inner
levels first. -/
def readFrom (l : Level) (p : Progress) : List String → Except Stop (Command × Given)
  | [] => do
    let p ← p.settle
    return (← l.finish p.given, p.given)
  | word :: rest => do
    if p.isClosed then throw (strayWord l true word)
    if !p.isWaiting then
      if l.isHelp word then throw (helpOn l rest)
      if let some below := l.command? word then
        let (command, given) ← readFrom below .start rest
        return (command, given ++ (← p.settle).given)
    match Word.ofText word with
    | .close => readFrom l { p with isClosed := true } rest
    | .long cs => readFrom l (← p.long l cs) rest
    | .letters cs => readFrom l (← p.letters l cs) rest
    | .plain =>
      match p.last with
      | some (f, none) => readFrom l { p with last := some (f, some word) } rest
      | _ => throw (strayWord l false word)

/-- The invocation that words stand for. -/
def read (words : List String) : Except Stop Invocation := do
  let (command, given) ← readFrom .top .start words
  return ⟨given.lookup .config, given.lookup .vaultHost, given.lookup .vaultToken, command⟩

end VaultAccess.CommandLine
