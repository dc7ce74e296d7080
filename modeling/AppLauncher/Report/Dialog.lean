import AppLauncher.Report.Category

/-!
# Dialogs

The texts that explain a failed launch.  They name the product; the download
address is not shown, it is only opened when the user agrees.
-/

namespace AppLauncher

structure Dialog where
  title : String
  body : String
deriving DecidableEq, Repr

inductive Choice where
  | accept
  | cancel
deriving DecidableEq, Repr

structure Messages where
  productName : String := "MuWire"
  downloadUrl : String := "http://www.java.com/"
deriving DecidableEq, Repr, Inhabited

namespace Messages

def body (messages : Messages) : FailureCategory → String
  | .runtimeMissing =>
    messages.productName ++ " needs the Java Runtime Environment 6.0 or above. "
      ++ "Click OK to go to www.java.com, where you can install Java."
  | .badArguments =>
    messages.productName ++ " failed to parse the commandline arguments to Java.\n"
      ++ "Please download and install " ++ messages.productName ++ " again."
  | .startFailure =>
    messages.productName ++ " was unable to load.\n"
      ++ "Please download and install " ++ messages.productName ++ " again."

def dialog (messages : Messages) (category : FailureCategory) : Dialog :=
  { title := messages.productName ++ " Launcher Error"
    body := messages.body category }

end Messages

end AppLauncher
