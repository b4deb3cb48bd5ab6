import KeyFeed.Host.Programs.About
import KeyFeed.Host.Programs.Columns
import KeyFeed.Host.Programs.Copying
import KeyFeed.Host.Programs.Difference
import KeyFeed.Host.Programs.Edit
import KeyFeed.Host.Programs.Expression
import KeyFeed.Host.Programs.Finding
import KeyFeed.Host.Programs.Ordering
import KeyFeed.Host.Programs.Search

/-! All programs by their names. -/

namespace KeyFeed.Host.Programs

/-- Runs a program that starts no other. -/
def run (program : String) (c : Call) : Report :=
  match program with
  | "true" | "sync" | "logger" | "stty" | "ps" => .quiet 0 c
  | "false" => .quiet 1 c
  | "echo" => (Report.quiet 0 c).say (echoPlainly c.args)
  | "printf" => printFormat c
  | "test" => testStatus c.args c
  | "[" => bracket c
  | "cat" => cat c
  | "tee" => tee c
  | "head" => head c
  | "tail" => tail c
  | "wc" => wc c
  | "tac" => tac c
  | "rev" => rev c
  | "nl" => numberLines c
  | "od" => od c
  | "touch" => touch c
  | "mkdir" => mkdir c
  | "rmdir" => rmdir c
  | "rm" => rm c
  | "ln" => ln c
  | "link" => link c
  | "unlink" => unlink c
  | "truncate" => truncate c
  | "mktemp" => mktemp c
  | "chmod" => chmod c
  | "chown" => chown true c
  | "chgrp" => chown false c
  | "cp" => cp c
  | "mv" => mv c
  | "install" => install c
  | "ls" => ls c
  | "stat" => stat c
  | "readlink" => readlink c
  | "realpath" => realpath c
  | "basename" => basename c
  | "dirname" => dirname c
  | "pwd" => pwd c
  | "sort" => sort c
  | "uniq" => uniq c
  | "comm" => comm c
  | "cmp" => cmp c
  | "diff" => diff c
  | "cut" => cut c
  | "paste" => paste c
  | "tr" => tr c
  | "fold" => fold c
  | "expand" => expand c
  | "seq" => seq c
  | "grep" => grep [] c
  | "egrep" => grep [('E', "")] c
  | "fgrep" => grep [('F', "")] c
  | "sed" => sed c
  | "expr" => expr c
  | "printenv" => printenv c
  | "which" => which c
  | "sleep" => sleep c
  | "yes" => yes c
  | "id" => id c
  | "uname" => uname c
  | "date" => date c
  | "factor" => factor c
  | "base64" => base64 c
  | "hostname" => telling "localhost" "fsid" c
  | "whoami" | "groups" => telling "root" "" c
  | "logname" => (telling "root" "" c).setStatus (if c.args.isEmpty then 0 else 1)
  | "nproc" => telling "1" "" c
  | "arch" => telling "x86_64" "" c
  | "tty" => c.withOptions (.of "s" []) 2 fun given _ =>
      (Report.saying (if given.has 's' then "" else "not a tty\n") c).setStatus 1
  | _ => c.refuse 1 "not available"

/-- Starts a program, or tells which others it asks for. -/
def start (program : String) (c : Call) : Launch :=
  if program = "find" then find c else (launch program c).getD (.report (run program c))

end KeyFeed.Host.Programs
