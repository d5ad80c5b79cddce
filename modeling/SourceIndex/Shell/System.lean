import SourceIndex.FileTree

set_option autoImplicit false

namespace SourceIndex

namespace FileSystem

/-- The names of the tools that stand in the directories that commands are sought in. -/
def toolNames : List String :=
  ["[", "basename", "cat", "dash", "dirname", "echo", "env", "false", "head", "kill", "mkdir",
    "printf", "pwd", "rm", "seq", "sh", "sleep", "tail", "test", "touch", "tr", "true", "wc"]

/-- A tree with the tools, the devices, some files that are no tools, and a place to work in. -/
def standard : FileSystem where
  root := .folder [
    ("bin", .link "usr/bin"),
    ("dev", .folder [("full", .device .full), ("null", .device .null), ("shm", .empty)]),
    ("etc", .folder [("hosts", .file []), ("passwd", .file [])]),
    ("home", .empty),
    ("root", .empty),
    ("tmp", .folder [("work", .empty)]),
    ("usr", .folder [
      ("bin", .folder (toolNames.map fun name => (name, .file []))),
      ("local", .folder [("bin", .empty)])]),
    ("var", .empty)]
  workingDirectory := ["tmp", "work"]

end FileSystem

end SourceIndex
