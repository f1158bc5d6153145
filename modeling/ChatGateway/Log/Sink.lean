import ChatGateway.Log.Line

/-!
Where the lines of a log go.
-/

namespace ChatGateway

/-- A file that takes log lines. When it is full, a new one is begun; a few old ones are kept. -/
structure LogFile where
  directory : String
  name : String
  /-- The level of the file, unless it is that of the log. -/
  level : Option String := none
  /-- The size in bytes at which a file is full. -/
  capacity : Nat := 10 * 1024 * 1024
  /-- The number of files that are kept. -/
  kept : Nat := 5

/-- The places that a log writes to, beside the console. -/
structure LogSinks where
  level : String
  silent : Bool
  files : List LogFile

namespace LogSinks

/-- Takes one more part of a path: a dot stays in place and two dots lead back. Parts are kept last
first. -/
def enter (parts : List String) (part : String) : List String :=
  if part.isEmpty || part == "." then parts
  else if part == ".." then
    match parts with
    | [] => [".."]
    | last :: rest => if last == ".." then ".." :: parts else rest
  else part :: parts

/-- The plain form of the path of a directory below the place where a process keeps its logs. An
absolute path is taken from there too. -/
def plainPath (path : String) : String :=
  "/".intercalate ((path.splitOn "/").foldl enter []).reverse

/-- The places that settings ask for: two files if there is a directory for them. -/
def ofSettings (settings : LogSettings) : LogSinks where
  level := settings.level
  silent := settings.environment == "test"
  files := match settings.directory.filter (! ·.isEmpty) with
    | some directory => [
        { directory := plainPath directory, name := "combined.log" },
        { directory := plainPath directory, name := "error.log", level := some "error" }]
    | none => []

end LogSinks
end ChatGateway
