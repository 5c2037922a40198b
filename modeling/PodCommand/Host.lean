import PodCommand.Files

namespace PodCommand

/-- What the program can see of the machine that it runs on. -/
structure Host where
  files : Files
  /-- The environment: names and values. -/
  environment : List (String × String)
  /-- The home directory that the account has where the environment names none. -/
  accountHome : Option String
  deriving Repr, Inhabited

namespace Host

/-- The value of an environment variable. -/
def valueOf? (host : Host) (name : String) : Option String :=
  (host.environment.find? (·.1 == name)).map (·.2)

/-- The home directory of the user. -/
def home? (host : Host) : Option String :=
  ((host.valueOf? "HOME").filter (fun home => !home.isEmpty)) <|> host.accountHome

/-- The directory that holds the user's configuration. -/
def configDirectory? (host : Host) : Option String :=
  ((host.valueOf? "XDG_CONFIG_HOME").filter Path.isAbsolute) <|>
    host.home?.map (Path.join · ".config")

end Host
end PodCommand
