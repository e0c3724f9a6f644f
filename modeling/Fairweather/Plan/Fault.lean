import Fairweather.Expression.Grammar
import Fairweather.Forecast.Dataset
import Fairweather.Json.Fault

/-!
# What can go wrong

Every way in which a plan, from its texts to its windows, can fail, and what is said then.
-/

namespace Fairweather

/-- Why a file cannot be read. -/
inductive FileFault where
  | missing
  | isDirectory
  | notDirectory
  | nameTooLong
  | nulInName
  | notText
  /-- Anything else, in the words of the system. -/
  | system (message : String)
deriving DecidableEq

def FileFault.message : FileFault → String
  | missing => "No such file or directory (os error 2)"
  | isDirectory => "Is a directory (os error 21)"
  | notDirectory => "Not a directory (os error 20)"
  | nameTooLong => "File name too long (os error 36)"
  | nulInName => "file name contained an unexpected NUL byte"
  | notText => "stream did not contain valid UTF-8"
  | system message => message

/-- Why operands do not make a condition. -/
inductive OperandFault where
  | count (expected found : Nat)
  | pointExpected (found : Token)
  | comparisonExpected (found : Token)
  | numberExpected (found : Token)
  | leftOver
deriving DecidableEq

def OperandFault.message : OperandFault → String
  | count expected found =>
    "expected " ++ toString expected ++ " operand(s), found " ++ toString found
  | pointExpected found => "expected a coordinate pair, found `" ++ found.text ++ "`"
  | comparisonExpected found => "expected '>' or '<', found `" ++ found.text ++ "`"
  | numberExpected found => "expected a number, found `" ++ found.text ++ "`"
  | leftOver => "operands left on the stack"

/-- Where a forecast comes from. -/
inductive Origin where
  | input
  | file (path : String)
deriving DecidableEq

/-- The origin as messages name it. -/
def Origin.text : Origin → String
  | input => "input"
  | file path => "`" ++ path ++ "`"

/-- Why a forecast cannot be decoded: its text is at fault, or it cannot be read to its end. -/
inductive DecodingFault where
  | json (fault : Json.Fault)
  | file (fault : FileFault)
deriving DecidableEq

def DecodingFault.message : DecodingFault → String
  | json fault => fault.message
  | file fault => fault.message

/-- Why a plan gives no result. -/
inductive PlanFault where
  | unreadableExpression (text : String) (fault : SyntaxFault)
  | noOperand
  | unknownKeyword (keyword : String)
  | malformed (keyword : String) (fault : OperandFault)
  | elsewhere (required retrieved : Coordinates)
  | invalidDataset (fault : DatasetFault)
  | unreadableFile (path : String) (fault : FileFault)
  | undecodable (origin : Origin) (fault : DecodingFault)
deriving DecidableEq

def PlanFault.message : PlanFault → String
  | unreadableExpression text fault => "syntax error in `" ++ text ++ "`: " ++ fault.message
  | noOperand => "pop or peek on an empty predicate stack"
  | unknownKeyword keyword => "no handler registered for predicate `" ++ keyword ++ "`"
  | malformed keyword fault => "malformed `" ++ keyword ++ "` predicate: " ++ fault.message
  | elsewhere required retrieved =>
    "dataset was retrieved for " ++ retrieved.text ++ ", but the plan requires " ++ required.text
  | invalidDataset fault => "invalid dataset: " ++ fault.message
  | unreadableFile path fault => "failed to read `" ++ path ++ "`: " ++ fault.message
  | undecodable origin fault =>
    "failed to decode dataset JSON from " ++ origin.text ++ ": " ++ fault.message

end Fairweather
