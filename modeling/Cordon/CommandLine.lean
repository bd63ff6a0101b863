import Cordon.Convention
import Cordon.Text.Similarity

/-! # The command line

`CommandLine.parse` reads what stands behind the name of the program: a command and its options. An
option is written `--name value` or `--name=value`; the option for excluded nodes takes any number
of values, and several of them in one word, with commas in between. Behind `--` nothing is an
option.
-/

namespace Cordon

/-- What the program is asked to do. -/
inductive Command where
  | install (image : String) (pullSecret : Option String)
  | uninstall
  /-- Print the definition of the quarantine resource. -/
  | showDefinition
  | reschedule (excluded : List String) (namespaceName : String)
deriving DecidableEq

namespace CommandLine

/-- Why a command line is not carried out. -/
inductive UsageError where
  | missingCommand
  /-- An unknown word that is much like the name of a command. -/
  | misspelledCommand (word : String)
  /-- Help is asked for about something that is no command. -/
  | unknownCommand (word : String)
  | unknownArgument (word : String)
  | repeatedOption (name : String)
  | missingOption (name : String)
  | missingValue (name : String)
  | helpRequested
  | versionRequested
deriving DecidableEq

def usage : String :=
  "quarantinectl <command>\n\n" ++
  "  install --image IMAGE [--image-pull-secret SECRET]   install the controller\n" ++
  "  uninstall                                            take away what was installed\n" ++
  "  crd                                                  print the resource definition\n" ++
  "  reschedule [--excludedNodes NODE,...] [--namespace NAMESPACE]\n" ++
  "                                                       move the controller off nodes\n"

def UsageError.message : UsageError → String
  | .missingCommand => usage
  | .misspelledCommand word => "No command is called '" ++ word ++ "'; another is much like it"
  | .unknownCommand word => "No command is called '" ++ word ++ "'"
  | .unknownArgument word => "Unexpected argument '" ++ word ++ "'"
  | .repeatedOption name => "The option '--" ++ name ++ "' is given more than once"
  | .missingOption name => "The option '--" ++ name ++ "' is missing"
  | .missingValue name => "The option '--" ++ name ++ "' has no value"
  | .helpRequested => usage
  | .versionRequested => "quarantinectl"

/-- Whether a program that stops here has done what it was asked to do. -/
def UsageError.isAnswer : UsageError → Bool
  | .helpRequested | .versionRequested => true
  | _ => false

/-- An option of a command. -/
structure Flag where
  name : String
  /-- Whether the option has to be there. -/
  required : Bool
  /-- Whether the option takes many values, and a comma parts two of them. -/
  many : Bool
  /-- The value of an option that is given none. -/
  default : Option String
deriving DecidableEq

/-! ## Words -/

/-- Whether a word begins a new argument and is no value. -/
def beginsArgument (word : String) : Bool := word.startsWith "-" && word ≠ "-"

/-- The parts of a word between commas; there is no part behind a comma at the end. -/
def splitValues (word : String) : List String :=
  if word.isEmpty then [""]
  else
    let parts := word.toList.splitOn ','
    (if word.endsWith "," then parts.dropLast else parts).map String.ofList

/-- The name of a long argument and the value that is written with it. -/
def splitLong (word : String) : String × Option String :=
  let text := word.toList.dropWhile (· = '-')
  if text.contains '=' then
    (.ofList (text.takeWhile (· ≠ '=')),
      some (.ofList ((text.dropWhile (· ≠ '=')).dropWhile (· = '='))))
  else (.ofList text, none)

def commonLong (word name : String) : UsageError :=
  if name = "help" then .helpRequested
  else if name = "version" then .versionRequested
  else .unknownArgument word

/-- What a word of short arguments comes to: its first character decides. -/
def shortArguments (word : String) : UsageError :=
  match word.toList.dropWhile (· = '-') with
  | 'h' :: _ => .helpRequested
  | 'V' :: _ => .versionRequested
  | _ => .unknownArgument word

/-! ## Options -/

/-- The options read so far: each mention in turn, with the values that belong to it. -/
abbrev Given := List (String × List String)

namespace Given

def extend (values : List String) : Given → Given
  | [] => []
  | [(name, vs)] => [(name, vs ++ values)]
  | mention :: rest => mention :: extend values rest

def values (given : Given) (name : String) : List String :=
  (given.filter (·.1 = name)).flatMap (·.2)

def mentions (given : Given) (name : String) : Nat := given.countP (·.1 = name)

end Given

def Flag.valuesOf (f : Flag) (word : String) : List String :=
  if f.many then splitValues word else [word]

/-- The option that waits for values after a word has been taken for one. -/
def Flag.after (f : Flag) (word : String) : Option Flag :=
  if f.many && !word.toList.contains ',' then some f else none

/-- Reads a long argument; also the option that waits for values after it. -/
def readLong (flags : List Flag) (given : Given) (word : String) :
    Except UsageError (Given × Option Flag) :=
  let (name, value) := splitLong word
  match flags.find? (·.name = name) with
  | none => .error (commonLong word name)
  | some f =>
    match value with
    | some v => .ok (given ++ [(name, f.valuesOf v)], none)
    | none => .ok (given ++ [(name, [])], some f)

/-- Reads the words behind a command that takes these options, where one of them may wait for
values. -/
def readOptions (flags : List Flag) :
    Given → Option Flag → List String → Except UsageError Given
  | given, _, [] => .ok given
  | given, waiting, word :: rest =>
    if word = "--" then
      match rest with
      | [] => .ok given
      | next :: _ => .error (.unknownArgument next)
    else if word.startsWith "--" then do
      let (given, waiting) ← readLong flags given word
      readOptions flags given waiting rest
    else if beginsArgument word then .error (shortArguments word)
    else
      match waiting with
      | some f => readOptions flags (given.extend (f.valuesOf word)) (f.after word) rest
      | none => .error (.unknownArgument word)

/-- The values of an option, with its default where it has none. -/
def valuesFor (given : Given) (f : Flag) : List String :=
  match given.values f.name, f.default with
  | v :: vs, _ => v :: vs
  | [], some d => [d]
  | [], none => []

def isBare (given : Given) (f : Flag) : Bool :=
  0 < given.mentions f.name && (valuesFor given f).isEmpty

/-- Whether an option for one value is there more than once. -/
def isRepeated (given : Given) (f : Flag) : Bool := !f.many && 1 < given.mentions f.name

/-- Checks that options that have to be there are, then that all options have values, and then that
none is repeated that takes one value. -/
def checkOptions (flags : List Flag) (given : Given) : Except UsageError Unit :=
  match flags.find? fun f => f.required && given.mentions f.name = 0 with
  | some f => .error (.missingOption f.name)
  | none =>
    match flags.find? (isBare given) with
    | some f => .error (.missingValue f.name)
    | none =>
      match flags.find? (isRepeated given) with
      | some f => .error (.repeatedOption f.name)
      | none => .ok ()

def options (flags : List Flag) (words : List String) : Except UsageError Given := do
  let given ← readOptions flags [] none words
  checkOptions flags given
  pure given

/-! ## Commands -/

def imageFlag : Flag := ⟨"image", true, false, none⟩

def pullSecretFlag : Flag := ⟨"image-pull-secret", false, false, none⟩

def excludedFlag : Flag := ⟨"excludedNodes", false, true, none⟩

def namespaceFlag : Flag := ⟨"namespace", false, false, some Convention.controllerNamespace⟩

def commandNames : List String := ["install", "uninstall", "crd", "reschedule", "help"]

/-- What asking for help about some words comes to. No command has commands of its own. -/
def help : List String → UsageError
  | [] => .helpRequested
  | [word] => if word ∈ commandNames then .helpRequested else .unknownCommand word
  | word :: next :: _ => .unknownCommand (if word ∈ commandNames then next else word)

/-- Reads the words behind the name of a command; nothing for other names. -/
def readCommand (name : String) (words : List String) : Option (Except UsageError Command) :=
  match name with
  | "install" => some do
    let given ← options [imageFlag, pullSecretFlag] words
    pure (.install ((valuesFor given imageFlag).headD "") (valuesFor given pullSecretFlag).head?)
  | "uninstall" => some do
    let _ ← options [] words
    pure .uninstall
  | "crd" => some do
    let _ ← options [] words
    pure .showDefinition
  | "reschedule" => some do
    let given ← options [excludedFlag, namespaceFlag] words
    pure (.reschedule (valuesFor given excludedFlag)
      ((valuesFor given namespaceFlag).headD Convention.controllerNamespace))
  | "help" => some (.error (help words))
  | _ => none

def strayWord (word : String) : UsageError :=
  if commandNames.any (Text.resembles word) then .misspelledCommand word
  else .unknownArgument word

def parse : List String → Except UsageError Command
  | [] => .error .missingCommand
  | "--" :: [] => .error .missingCommand
  | "--" :: word :: _ => .error (strayWord word)
  | word :: rest =>
    match readCommand word rest with
    | some result => result
    | none =>
      if word.startsWith "--" then .error (commonLong word (splitLong word).1)
      else if beginsArgument word then .error (shortArguments word)
      else .error (strayWord word)

end CommandLine

end Cordon
