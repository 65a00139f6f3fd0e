/-!
# Bundled pages

The pages of the authentication generator.
-/

namespace Scaffold.Bundled

def accountRecovery : List String :=
  [
    "<div class=\"row\">",
    "  <div class=\"col-md-6 offset-md-3\">",
    "    <h2>Choose a new password</h2>",
    "",
    "    <%= form_for(user, \x7baction: accountRecoveryPath(\x7bcode: code\x7d), method: \"POST\"\x7d) \x7b %>",
    "      <%= f.InputTag(\"Password\", \x7btype: \"password\"\x7d) %>",
    "      <%= f.InputTag(\"PasswordConfirmation\", \x7btype: \"password\"\x7d) %>",
    "",
    "      <button class=\"btn btn-primary\" role=\"submit\">Change password</button>",
    "    <% \x7d %>",
    "  </div>",
    "</div>"]

def landing : List String :=
  [
    "<div class=\"row\">",
    "  <div class=\"col-md-6 offset-md-3 text-center\">",
    "    <h2>Welcome</h2>",
    "    <a href=\"<%= newAuthPath() %>\" class=\"btn btn-primary\">Sign In</a>",
    "    <a href=\"<%= newUsersPath() %>\" class=\"btn btn-success\">Register</a>",
    "  </div>",
    "</div>"]

def loginForm : List String :=
  [
    "<div class=\"row\">",
    "  <div class=\"col-md-6 offset-md-3\">",
    "    <h2>Sign In</h2>",
    "",
    "    <%= form_for(user, \x7baction: authPath()\x7d) \x7b %>",
    "      <%= f.InputTag(\"Email\") %>",
    "      <%= f.InputTag(\"Password\", \x7btype: \"password\"\x7d) %>",
    "",
    "      <button class=\"btn btn-success\" role=\"submit\">Sign In!</button>",
    "    <% \x7d %>",
    "",
    "    <a href=\"<%= passwordResetPath() %>\">Forgot your password?</a>",
    "  </div>",
    "</div>"]

def passwordReset : List String :=
  [
    "<div class=\"row\">",
    "  <div class=\"col-md-6 offset-md-3\">",
    "    <h2>Reset your password</h2>",
    "",
    "    <%= form_for(user, \x7baction: passwordResetPath(), method: \"POST\"\x7d) \x7b %>",
    "      <%= f.InputTag(\"Email\") %>",
    "",
    "      <button class=\"btn btn-primary\" role=\"submit\">Send recovery link</button>",
    "    <% \x7d %>",
    "  </div>",
    "</div>"]

def registrationForm : List String :=
  [
    "<div class=\"row\">",
    "  <div class=\"col-md-6 offset-md-3\">",
    "    <h2>Register</h2>",
    "",
    "    <%= form_for(user, \x7baction: usersPath()\x7d) \x7b %>",
    "      <%= f.InputTag(\"Email\") %>",
    "      <%= f.InputTag(\"Password\", \x7btype: \"password\"\x7d) %>",
    "      <%= f.InputTag(\"PasswordConfirmation\", \x7btype: \"password\"\x7d) %>",
    "",
    "      <button class=\"btn btn-success\" role=\"submit\">Register!</button>",
    "    <% \x7d %>",
    "  </div>",
    "</div>"]

end Scaffold.Bundled
