import LineShell.Host.Call
import LineShell.Host.Lookup
import LineShell.Shell

/-! Commands that are programs of the machine. -/
namespace LineShell

/-- The status that a program's ending gives: its code, or the number of the signal above 128. -/
def Ending.status : Ending → Status
  | .exited code => Int32.ofNat code.toNat
  | .signalled number => Status.signalled + Int32.ofNat number

namespace External

def call (s : Session) (path : Path) (name : Text) (arguments : List Text) : Call :=
  { path, arguments := name :: arguments, environment := environmentOf s.env.pairs,
    directory := s.directory }

/-- Copies what a program has written to the streams, and ends as it did. -/
def copy (outcome : Outcome) : Command := fun sh =>
  match Shell.putOut outcome.out 0 sh with
  | (.error fault, sh) => (.error fault, sh)
  | (.ok _, sh) => Shell.putErr outcome.err outcome.ending.status sh

/-- Runs a program. What was written before it is flushed first, and its output is copied to the
streams when it has ended. -/
def run (programs : Programs) (path : Path) (name : Text) (arguments : List Text) : Command :=
  fun sh =>
    match sh.streams.flush with
    | .error fault => (.error fault, sh)
    | .ok () =>
      match programs sh.host (call sh.session path name arguments) with
      | .error cause => (.error (.shell (.exec cause)), sh)
      | .ok (.error cause, host) =>
        (.error (.within ("waiting for ".toList ++ name) (.plain cause.message)), { sh with host })
      | .ok (.ok outcome, host) => copy outcome { sh with host }

def factory (programs : Programs) : Factory := fun sh name arguments =>
  let s := sh.session
  (sh.host.files.find? sh.host.directory (s.env.get? "PATH".toList) s.directory name).map
    fun path => run programs path name arguments

end External
end LineShell
