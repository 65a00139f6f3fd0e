import Scaffold.Bundled.Actions
import Scaffold.Bundled.Pages
import Scaffold.Bundled.Users
import Scaffold.Filesystem.Tree
/-!
# The bundled tree

The templates of the authentication generator as a directory tree. Every file is text and each of
its lines ends with a newline.
-/

namespace Scaffold.Bundled

/-- The text of some lines, each with a newline. -/
def textOf (lines : List String) : String :=
  String.join (lines.map (· ++ "\n"))

def file (lines : List String) : Entry :=
  .file (textOf lines).toUTF8

def auth : Entry :=
  .directory
    [("actions", .directory
        [("auth.go", file login), ("recovery.go", file recovery),
          ("users.go", file registration)]),
      ("migrations", .directory [("create_users.fizz", file migration)]),
      ("models", .directory [("user.go", file model)]),
      ("templates", .directory
        [("auth", .directory
            [("account_recovery.html", file accountRecovery), ("landing.html", file landing),
              ("new.html", file loginForm), ("password_reset.html", file passwordReset)]),
          ("users", .directory [("new.html", file registrationForm)])])]

end Scaffold.Bundled
