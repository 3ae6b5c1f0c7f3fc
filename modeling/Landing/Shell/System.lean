import Landing.Path

/-! What every system has: directories and programs. -/
namespace Landing.Shell.System

/-- Directories that are always there. -/
def directories : List String :=
  ["/", "/bin", "/dev", "/etc", "/home", "/lib", "/opt", "/proc", "/root", "/run", "/sbin", "/srv",
   "/sys", "/tmp", "/usr", "/usr/bin", "/usr/lib", "/usr/local", "/usr/local/bin", "/usr/sbin",
   "/usr/share", "/var", "/var/lib", "/var/log", "/var/tmp"]

def isDirectory (place : List String) : Bool := directories.contains (Path.ofPlace place)

/-- Programs that run others. -/
def runners : List String :=
  ["bash", "dash", "env", "nice", "nohup", "setsid", "sh", "timeout", "which", "xargs"]

/-- The names of the programs. -/
def programs : List String :=
  runners ++
  ["[", "basename", "cat", "chmod", "cp", "cut", "date", "dirname", "echo", "egrep", "expr",
   "false", "fgrep", "grep", "head", "id", "ls", "mkdir", "mktemp", "mv", "printenv", "printf",
   "pwd", "readlink", "realpath", "rev", "rm", "rmdir", "sed", "seq", "sleep", "sort", "sync",
   "tac", "tail", "tee", "test", "touch", "tr", "true", "tty", "uname", "uniq", "wc", "whoami"]

/-- The name of the program at a place. -/
def program? (place : List String) : Option String :=
  match place with
  | ["bin", name] | ["usr", "bin", name] => if programs.contains name then some name else none
  | _ => none

/-- Files that are no program and hold nothing. -/
def isDevice (place : List String) : Bool :=
  [["dev", "null"], ["dev", "zero"], ["dev", "tty"], ["dev", "stdin"], ["dev", "stdout"],
   ["dev", "stderr"]].contains place

end Landing.Shell.System
