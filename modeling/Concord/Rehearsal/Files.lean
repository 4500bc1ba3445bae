import Concord.FileTree

/-!
# Files for rehearsals

A rehearsed command finds the usual directories of a system, an empty device, and a settings
file if one is provided. The working directory holds nothing.
-/

namespace Concord.Rehearsal

/-- The path of the settings file. -/
def settingsPath : String :=
  "/tmp/settings.json"

/-- Directories that hold nothing. -/
def emptyDirectories (names : List String) : List (String × FileTree) :=
  names.map fun name => (name, .directory [])

/-- The file tree that a rehearsed command finds. -/
def files (settings : Option String) : FileTree :=
  let temporary := match settings with
    | none => []
    | some content => [("settings.json", .file (some content))]
  .directory ([
    ("dev", .directory [("null", .file (some ""))]),
    ("etc", .directory [("passwd", .file (some "root:x:0:0:root:/root:/bin/sh\n"))]),
    ("tmp", .directory temporary),
    ("usr", .directory (("bin", .directory [("env", .file none)]) ::
      emptyDirectories ["include", "lib", "local", "sbin", "share", "src"])),
    ("var", .directory (emptyDirectories ["cache", "lib", "log", "tmp"]))] ++
    emptyDirectories ["bin", "boot", "home", "lib", "media", "mnt", "opt", "proc", "root", "run",
      "sbin", "srv", "sys"])

/-- Read a file by its path, seen from the working directory. -/
def contentAt (settings : Option String) (path : String) : Except FileFailure String :=
  (files settings).read ["srv"] path

end Concord.Rehearsal
