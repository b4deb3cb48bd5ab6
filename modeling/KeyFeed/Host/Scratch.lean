import KeyFeed.Host.Files

/-! A machine at rest: the usual directories and devices, the programs that every machine has, and an empty directory to
    work in. -/

namespace KeyFeed.Host.Files
open Text

/-- The directories in which programs are looked for. -/
def programDirectories : List String := ["/usr/local/sbin", "/usr/local/bin", "/usr/sbin", "/usr/bin", "/sbin", "/bin"]

/-- The programs that are on every machine. -/
def commonPrograms : List String :=
  ["sh", "dash", "bash", "true", "false", "echo", "printf", "test", "[", "cat", "tee", "touch", "mkdir", "rmdir", "rm",
   "ls", "cp", "mv", "ln", "wc", "head", "tail", "sort", "uniq", "grep", "egrep", "fgrep", "sed", "tr", "cut", "sleep",
   "pwd", "chmod", "chown", "chgrp", "seq", "expr", "basename", "dirname", "env", "printenv", "date", "hostname", "id",
   "logger", "uname", "whoami", "which", "readlink", "realpath", "stat", "find", "xargs", "yes", "nice", "nohup",
   "timeout", "kill", "tac", "rev", "nl", "paste", "fold", "od", "cmp", "diff", "comm", "join", "expand", "unexpand",
   "mktemp", "truncate", "install", "mkfifo", "link", "unlink", "sync", "tty", "nproc", "arch", "groups", "logname",
   "md5sum", "sha1sum", "sha256sum", "cksum", "base64", "dd", "df", "du", "stty", "split", "shuf", "factor", "numfmt",
   "awk", "perl", "setsid", "ps"]

/-- Things put at places of their own, one after the other. -/
def addAll (things : List (Place × Content × Nat)) (fs : Files) : Files :=
  things.foldl (fun fs (place, content, mode) => fs.add place content mode) fs

/-- The usual directories, with programs where they are looked for, and an empty directory to work in. -/
def scratch : Files :=
  let directories : List Place :=
    [["boot"], ["dev"], ["dev", "fd"], ["etc"], ["home"], ["media"], ["mnt"], ["opt"], ["proc"], ["root"], ["run"], ["srv"],
     ["sys"], ["tmp"], ["usr"], ["usr", "bin"], ["usr", "lib"], ["usr", "sbin"], ["usr", "local"], ["usr", "local", "bin"],
     ["usr", "local", "sbin"], ["usr", "share"], ["var"], ["var", "log"], ["var", "run"], ["var", "tmp"], ["tmp", "work"]]
  let links : List (Place × String) :=
    [(["bin"], "usr/bin"), (["lib"], "usr/lib"), (["sbin"], "usr/sbin"), (["usr", "bin", "sh"], "dash")]
  let streams : List (Place × Nat) :=
    [(["dev", "stdin"], 0), (["dev", "stdout"], 1), (["dev", "stderr"], 2), (["dev", "fd", "0"], 0), (["dev", "fd", "1"], 1),
     (["dev", "fd", "2"], 2)]
  let devices : List (String × Content) :=
    [("null", .void), ("zero", .zeros false), ("random", .zeros false), ("urandom", .zeros false), ("full", .zeros true),
     ("tty", .terminal)]
  let texts : List (String × String) :=
    [("passwd", "root:x:0:0:root:/root:/bin/bash\n"), ("group", "root:x:0:\n"), ("hostname", "localhost\n"),
     ("hosts", "127.0.0.1\tlocalhost\n")]
  { (addAll
      (directories.map (fun place => (place, .directory, 0o755))
        ++ links.map (fun (place, target) => (place, .link target, 0o777))
        ++ devices.map (fun (name, content) => (["dev", name], content, 0o666))
        ++ texts.map (fun (name, text) => (["etc", name], .file (toBytes text), 0o644))
        ++ streams.map (fun (place, n) => (place, .stream n, 0o666))
        ++ (commonPrograms.filter (· != "sh")).map (fun name => (["usr", "bin", name], .program name, 0o755)))
      ⟨[], [], 1, [], 0⟩) with
    workplace := ["tmp", "work"]
    mask := 0o022 }

end KeyFeed.Host.Files
