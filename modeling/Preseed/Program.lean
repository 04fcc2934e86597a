/-!
# The program

The program's name and version, as its answers give them.
-/

namespace Preseed.Program

def name : String := "netpreseed"

def version : String := "0.2.0"

end Preseed.Program
