import Overseer.Text.Numeral
import Overseer.Text.Quoted

set_option autoImplicit false

namespace Overseer.Workload

inductive Verdict where
  | success
  | failure
deriving DecidableEq, Repr

inductive Step where
  | command (program : String) (arguments : List String)
  | sleep (seconds : UInt64)
  | echo (message : String)
deriving DecidableEq, Repr

namespace Step

def text : Step → String
  | command program arguments => String.intercalate " " (program :: arguments)
  | sleep seconds => "sleep " ++ Text.Numeral.word64 seconds ++ "s"
  | echo message => "echo " ++ Text.quoted message

-- What is supervised where nothing is configured: it waits, prints a marker and fails.
def placeholder : List Step := [command "sleep" ["5"], echo "Test", command "false" []]

end Step

end Overseer.Workload
