/-!
# Statuses

The number that a command answers with. Zero means success; two statuses are kept for names that
lead to no running program.
-/

namespace LineShell

/-- The number that a command answers with: zero for success. -/
abbrev Status := Int

/-- The status of a name that stands for nothing. -/
def Status.notFound : Status := 127

/-- The status of a program that could not be started. -/
def Status.notExecutable : Status := 126

end LineShell
