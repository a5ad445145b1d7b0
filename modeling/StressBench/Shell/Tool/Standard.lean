/-
# The standard tools

The table of the tools that are programs on the disk, by their names.

Key definitions: `Tool.standard`, `Tool.shellName`.
-/
import StressBench.Shell.Tool.Calculation
import StressBench.Shell.Tool.Columns
import StressBench.Shell.Tool.Condition
import StressBench.Shell.Tool.Difference
import StressBench.Shell.Tool.Digest
import StressBench.Shell.Tool.Division
import StressBench.Shell.Tool.Dump
import StressBench.Shell.Tool.Editing
import StressBench.Shell.Tool.Entries
import StressBench.Shell.Tool.Finding
import StressBench.Shell.Tool.Listing
import StressBench.Shell.Tool.Names
import StressBench.Shell.Tool.Printing
import StressBench.Shell.Tool.Reading
import StressBench.Shell.Tool.Reporting
import StressBench.Shell.Tool.Search
import StressBench.Shell.Tool.Sequence
import StressBench.Shell.Tool.Sorting
import StressBench.Shell.Tool.Starting
import StressBench.Shell.Tool.Translation

namespace StressBench
namespace Shell
namespace Tool

/-- A tool that does nothing and gives a status. -/
def giving (status : Nat) : Tool := fun _ _ => return status

/-- The tools that are programs, by their names. -/
def standard : List (String × (Runner → Tool)) :=
  [("[", fun _ => test), ("awk", awk), ("base32", fun _ => base32), ("base64", fun _ => base64),
    ("basename", fun _ => basename), ("cat", fun _ => cat), ("chmod", fun _ => chmod),
    ("cksum", fun _ => cksum), ("cmp", fun _ => cmp), ("comm", fun _ => comm), ("cp", fun _ => cp),
    ("cut", fun _ => cut), ("dd", fun _ => dd), ("diff", fun _ => diff),
    ("dirname", fun _ => dirname), ("echo", fun _ => echo), ("egrep", fun _ => egrep), ("env", env),
    ("expand", fun _ => expand), ("expr", fun _ => expr), ("factor", fun _ => factor),
    ("false", fun _ => giving 1), ("fgrep", fun _ => fgrep), ("find", find),
    ("fold", fun _ => fold), ("grep", fun _ => grep), ("head", fun _ => head),
    ("join", fun _ => join), ("link", fun _ => link), ("ln", fun _ => ln), ("ls", fun _ => ls),
    ("mawk", awk), ("md5sum", fun _ => digest "MD5" Digest.md5), ("mkdir", fun _ => mkdir),
    ("mktemp", fun _ => mktemp), ("mv", fun _ => mv), ("nice", nice), ("nl", fun _ => nl),
    ("nohup", nohup), ("od", fun _ => od), ("paste", fun _ => paste),
    ("printenv", fun _ => printenv), ("printf", fun _ => printf), ("pwd", fun _ => pwd),
    ("readlink", fun _ => readlink), ("realpath", fun _ => realpath), ("rev", fun _ => rev),
    ("rm", fun _ => rm), ("rmdir", fun _ => rmdir), ("sed", fun _ => sed), ("seq", fun _ => seq),
    ("setsid", setsid), ("sha1sum", fun _ => digest "SHA1" Digest.sha1),
    ("sha224sum", fun _ => digest "SHA224" Digest.sha224),
    ("sha256sum", fun _ => digest "SHA256" Digest.sha256),
    ("sha384sum", fun _ => digest "SHA384" Digest.sha384),
    ("sha512sum", fun _ => digest "SHA512" Digest.sha512), ("sleep", fun _ => sleep),
    ("sort", fun _ => sort), ("split", fun _ => split), ("stat", fun _ => stat), ("stdbuf", stdbuf),
    ("sum", fun _ => sum), ("sync", fun _ => giving 0), ("tac", fun _ => tac),
    ("tail", fun _ => tail), ("tee", fun _ => tee), ("test", fun _ => test), ("timeout", timeout),
    ("touch", fun _ => touch), ("tr", fun _ => tr), ("true", fun _ => giving 0),
    ("truncate", fun _ => truncate), ("tty", fun _ => tty), ("uname", fun _ => uname),
    ("unexpand", fun _ => unexpand), ("uniq", fun _ => uniq), ("unlink", fun _ => unlink),
    ("wc", fun _ => wc), ("which", fun _ => which), ("xargs", xargs), ("yes", fun _ => yes)]

/-- The name of the shell itself. -/
def shellName : String := "sh"

end Tool
end Shell
end StressBench
