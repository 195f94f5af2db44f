import LineShell.Host.FileSystem

/-! Finding the file of a command by its name. -/
namespace LineShell

namespace Path

/-- Where a name is looked for: in every directory of the colon-separated search path, in its order.
An empty entry stands for the directory that relative entries start from. -/
def candidates (search : Text) (directory : Path) (name : Text) : List Path :=
  (splitWhere (· == ':') search).map fun entry =>
    if entry = [] then directory.join (.ofText name)
    else (directory.join (.ofText entry)).join (.ofText name)

end Path

namespace FileSystem

/-- A name with a slash in it is a path, and leads to any file. Another name leads to the first
executable file among its candidates, and without a search path to none. -/
def find? (fs : FileSystem) (base : Location) (search : Option Text) (directory : Path)
    (name : Text) : Option Path :=
  if name = [] then none
  else if name.contains '/' then
    let path := directory.join (.ofText name)
    if fs.isFile base path then some path else none
  else
    match search with
    | none => none
    | some search => (Path.candidates search directory name).find? (fs.isExecutable base)

end FileSystem
end LineShell
