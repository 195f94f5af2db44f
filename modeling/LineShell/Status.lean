import LineShell.Text.Basic

/-! Exit statuses: signed 32-bit numbers, 0 for success. -/
namespace LineShell

abbrev Status := Int32

namespace Status

def notFound : Status := 127

def notExecutable : Status := 126

/-- Programs that a signal ends have a status above this one, by the number of the signal. -/
def signalled : Status := 128

def text (s : Status) : Text := Text.signed s.toInt

/-- The part of a status that outlives the process: its low eight bits. -/
def exitCode (s : Status) : UInt8 := UInt8.ofNat (s.toInt % 256).toNat

end Status
end LineShell
