import RpgSymbols.Table
import RpgSymbols.Text.Blank
import RpgSymbols.Text.DecimalDigit

/-!
Command line arguments. Options may stand anywhere, may be abbreviated as long as it is clear which
one is meant, and take their value from the next argument or behind an equals sign. A double dash
makes words of all arguments after it.
-/

namespace RpgSymbols.Command

open Text

/-- Why the command line was not accepted: help was asked for, or it is wrong. -/
inductive Usage where
  | help
  | misuse
  deriving DecidableEq, Repr

def Usage.code : Usage → Nat
  | .help => 0
  | .misuse => 2

structure Flag where
  name : String
  takesValue : Bool
  choices : List String := []
  deriving DecidableEq, Repr

def helpFlag : Flag := ⟨"--help", false, []⟩

inductive Argument where
  | word (text : String)
  | divider
  | flag (flag : Flag) (value : Option String)
  | faulty
  | unknown
  deriving DecidableEq, Repr

/-- Whether a text is a negative number: a dash and decimal digits, perhaps with a point before the
last ones, and perhaps a line feed at the end. -/
def isNegativeNumber (text : List Char) : Bool :=
  match if text.getLast? == some '\n' then text.dropLast else text with
  | '-' :: rest =>
      match rest.dropWhile isDecimalDigit with
      | [] => !rest.isEmpty
      | '.' :: digits => !digits.isEmpty && digits.all isDecimalDigit
      | _ => false
  | _ => false

/-- An argument that is no option of the command: a negative number and a text with a space are
words. -/
def classifyOther (text : String) : Argument :=
  if isNegativeNumber text.toList || text.toList.contains ' ' then .word text else .unknown

/-- The short form of the help option, which may be repeated, right behind it or behind an equals
sign. It takes no value. -/
def classifyShortHelp (rest : List Char) : Argument :=
  let repeats := match rest with
    | '=' :: value => if value.isEmpty then rest else value
    | _ => rest
  if repeats.all (· == 'h') then .flag helpFlag none else .faulty

/-- What an argument before a double dash is. Fails when an abbreviation may stand for more than one
option. -/
def classify (flags : List Flag) (text : String) : Except Usage Argument :=
  let known := helpFlag :: flags
  match text.toList with
  | '-' :: '-' :: _ =>
      match known.find? fun flag => flag.name = text with
      | some flag => .ok (.flag flag none)
      | none =>
          let name := before '=' text
          let value := if text.toList.contains '=' then some (after '=' text) else none
          match known.find? fun flag => flag.name = name with
          | some flag => .ok (.flag flag value)
          | none =>
              match known.filter fun flag => startsWith flag.name name with
              | [] => .ok (classifyOther text)
              | [flag] => .ok (.flag flag value)
              | _ => .error .misuse
  | '-' :: 'h' :: rest => .ok (classifyShortHelp rest)
  | ['-'] => .ok (.word text)
  | '-' :: _ => .ok (classifyOther text)
  | _ => .ok (.word text)

def classifyAll (flags : List Flag) : List String → Except Usage (List Argument)
  | [] => .ok []
  | text :: rest =>
      if text = "--" then .ok (.divider :: rest.map .word)
      else do return (← classify flags text) :: (← classifyAll flags rest)

/-- A word that a command takes: one that has to be there, or one that has a default. -/
inductive Operand where
  | required
  | optional (default : String)
  deriving DecidableEq, Repr

structure Signature where
  flags : List Flag
  operands : List Operand

/-- What was given for an operand or an option: a text, or nothing, because the text was a double
dash and that marks the end of the options. -/
inductive Given where
  | text (value : String)
  | lost
  deriving DecidableEq, Repr

def Given.text? : Given → Option String
  | .text value => some value
  | .lost => none

/-- What was read: the operands in order, the values of options, and whether arguments were left
over. -/
structure Parsed where
  operands : List Given := []
  values : Table Given := []
  leftOver : Bool := false
  deriving DecidableEq, Repr

def skipDivider : List Argument → List Argument
  | .divider :: rest => rest
  | arguments => arguments

/-- The argument an operand takes, and the arguments after it. A double dash on either side goes
with it; where the only one is the argument itself, the operand is lost. -/
def takeOperand (operand : Operand) (arguments : List Argument) :
    Option (Given × List Argument) :=
  match operand, skipDivider arguments with
  | _, .word text :: rest =>
      let isLost := text = "--" && arguments.head? = some (.word text)
      some (if isLost then .lost else .text text, skipDivider rest)
  | .optional default, rest => some (.text default, rest)
  | .required, _ => none

/-- The arguments that as many operands as possible take, the operands still without one, and the
arguments after them. -/
def takeOperands :
    List Operand → List Argument → List Given × List Operand × List Argument
  | [], arguments => ([], [], arguments)
  | operand :: rest, arguments =>
      match takeOperand operand arguments with
      | none => ([], operand :: rest, arguments)
      | some (text, after) =>
          let (texts, missing, left) := takeOperands rest after
          (text :: texts, missing, left)

def Argument.isFlag : Argument → Bool
  | .word _ => false
  | .divider => false
  | _ => true

/-- The effect of an option, and whether it took the next argument. A double dash as its value is
lost and not compared with the choices. -/
def applyFlag (parsed : Parsed) (flag : Flag) (value : Option String) (next : Option Argument) :
    Except Usage (Parsed × Bool) :=
  let put (given : Given) : Parsed :=
    { parsed with values := Table.set flag.name given parsed.values }
  let store (text : String) (taken : Bool) : Except Usage (Parsed × Bool) :=
    if text = "--" then .ok (put .lost, taken)
    else if flag.choices.isEmpty || flag.choices.contains text then .ok (put (.text text), taken)
    else .error .misuse
  match flag.takesValue, value, next with
  | true, some text, _ => store text false
  | true, none, some (.word text) => store text true
  | true, none, _ => .error .misuse
  | false, none, _ =>
      if flag = helpFlag then .error .help
      else .ok (put (.text ""), false)
  | false, some _, _ => .error .misuse

/-- Reads arguments in order. Each round takes at least one, so their number bounds the rounds. -/
def readArguments : Nat → List Operand → Parsed → List Argument → Except Usage Parsed
  | 0, _, parsed, _ => .ok parsed
  | bound + 1, operands, parsed, arguments =>
      match arguments with
      | [] =>
          let (texts, missing, _) := takeOperands operands []
          if missing.isEmpty then .ok { parsed with operands := parsed.operands ++ texts }
          else .error .misuse
      | .flag flag value :: rest => do
          let (parsed, taken) ← applyFlag parsed flag value rest.head?
          readArguments bound operands parsed (if taken then rest.drop 1 else rest)
      | .faulty :: _ => .error .misuse
      | .unknown :: rest => readArguments bound operands { parsed with leftOver := true } rest
      | arguments =>
          let (texts, missing, left) := takeOperands operands arguments
          let parsed := { parsed with operands := parsed.operands ++ texts }
          if left.length < arguments.length then readArguments bound missing parsed left
          else
            readArguments bound missing { parsed with leftOver := true }
              (arguments.dropWhile fun argument => !argument.isFlag)

def Parsed.operand? (parsed : Parsed) (place : Nat) : Option String :=
  parsed.operands[place]?.bind Given.text?

/-- Reads the arguments of a command. Options are told apart before any takes effect. -/
def Signature.read (signature : Signature) (arguments : List String) : Except Usage Parsed := do
  let classified ← classifyAll signature.flags arguments
  readArguments (classified.length + 1) signature.operands {} classified

end RpgSymbols.Command
