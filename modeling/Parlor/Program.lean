/-!
# The program
-/

namespace Parlor.Program

/-- The name of the program. -/
def name : String := "sanctum"

/-- The version of the program. -/
def version : String := "0.4.2"

end Parlor.Program
