/-
This file holds the warnings about options that the configuration leaves out.
-/

namespace HostTree

inductive Warning where
  | deprecated (option : String)
  | ignored (option : String)
  deriving DecidableEq, Repr

namespace Warning

def option : Warning → String
  | deprecated option => option
  | ignored option => option

def message : Warning → String
  | deprecated option =>
    option ++ " is deprecated and will be ignored by OpenSSH, you should remove it now from your "
      ++ "configuration as it may break in a future version."
  | ignored option =>
    option ++ " is not supported anymore by OpenSSH and will be ignored, you should remove it "
      ++ "from your configuration."

end Warning
end HostTree
