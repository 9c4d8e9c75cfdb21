namespace Columnar.Command

inductive Verb
  | compile
  | validate
  deriving DecidableEq, Repr

def Verb.ofName? (name : String) : Option Verb :=
  if name = "compile" then some .compile else if name = "validate" then some .validate else none

structure Request where
  verb : Verb
  path : String
  key : Option String
  json : Bool
  verbosity : Nat
  deriving DecidableEq, Repr

inductive Call
  | version
  | run (r : Request)
  deriving DecidableEq, Repr

inductive Argument
  | operand (text : String)
  | long (name : List Char) (value : Option (List Char))
  | short (letters : List Char)
  deriving DecidableEq, Repr

/-- A dash alone is an operand. An equals sign divides the name of a long option from its value. -/
def Argument.ofString (s : String) : Argument :=
  match s.toList with
  | '-' :: '-' :: cs =>
    match cs.dropWhile (· != '=') with
    | _ :: value => .long (cs.takeWhile (· != '=')) (some value)
    | [] => .long cs none
  | '-' :: c :: cs => .short (c :: cs)
  | _ => .operand s

structure Given where
  operands : List String
  key : Option String
  json : Bool
  verbosity : Nat

namespace Given

def nothing : Given := ⟨[], none, false, 0⟩

inductive Step
  | done (g : Given)
  | keyOwed (g : Given)

def letters (g : Given) : List Char → Option Step
  | [] => some (.done g)
  | c :: cs =>
    if c = 'v' then letters { g with verbosity := g.verbosity + 1 } cs
    else if c = 'k' then
      if cs.isEmpty then some (.keyOwed g)
      else some (.done { g with key := some (String.ofList cs) })
    else none

def long (g : Given) (name : List Char) : Option (List Char) → Option Step
  | some value =>
    if name = "key".toList then some (.done { g with key := some (String.ofList value) }) else none
  | none =>
    if name = "key".toList then some (.keyOwed g)
    else if name = "json".toList then some (.done { g with json := true })
    else if name = "verbose".toList then some (.done { g with verbosity := g.verbosity + 1 })
    else none

def step (g : Given) (arg : String) : Option Step :=
  match Argument.ofString arg with
  | .operand s => some (.done { g with operands := g.operands ++ [s] })
  | .long name value => g.long name value
  | .short cs => g.letters cs

/-- Reads arguments, a key taking the next one whatever its form. The last key counts. -/
def read (g : Given) : List String → Option Given
  | [] => some g
  | [arg] =>
    if arg = "--" then some g
    else match g.step arg with
      | some (.done g) => some g
      | _ => none
  | arg :: next :: rest =>
    if arg = "--" then some { g with operands := g.operands ++ next :: rest }
    else match g.step arg with
      | some (.done g) => read g (next :: rest)
      | some (.keyOwed g) => read { g with key := some next } rest
      | none => none

end Given

def Request.ofArguments (verb : Verb) (args : List String) : Option Request :=
  match Given.read .nothing args with
  | some ⟨[path], key, json, verbosity⟩ => some ⟨verb, path, key, json, verbosity⟩
  | _ => none

namespace Call

def ofVerb : List String → Option Call
  | [] => none
  | name :: args => (Verb.ofName? name).bind fun v => (Request.ofArguments v args).map .run

/-- The options of the program itself come before the verb. -/
def ofOptions (version : Bool) : List String → Option Call
  | [] => if version then some .version else none
  | arg :: args =>
    let verb (args : List String) := if version then some .version else ofVerb args
    if arg = "--version" then ofOptions true args
    else if arg = "--" then verb args
    else match Argument.ofString arg with
      | .operand _ => verb (arg :: args)
      | _ => none

/-- `none` if the program cannot be used in this way. -/
def ofArguments (args : List String) : Option Call := ofOptions false args

end Call
end Columnar.Command
