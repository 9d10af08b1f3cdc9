import OrgStacks.CommandLine.Arguments

/-!
# Help

The texts that are printed instead of doing something.
-/

set_option autoImplicit false

namespace OrgStacks.CommandLine

def programName : String := "orgiam"

def versionText : String := programName ++ " 0.1.0\n"

/-- The variable that names the configuration when no argument does. -/
def filenameVariable : String := "ORGIAM_CONFIG"

def usage : String :=
  "Usage: " ++ programName ++ " [OPTIONS] " ++ ValueOption.filename.display

def helpLine (lead display description : String) : String :=
  let left := "  " ++ lead ++ display
  left ++ String.ofList (List.replicate (33 - left.length) ' ') ++ description ++ "\n"

def helpText (variableValue : Option String) : String :=
  "Compiles a multi-account IAM organization description into per-account CloudFormation " ++
  "templates.\n\n" ++ usage ++ "\n\nOptions:\n" ++
  helpLine "-f, " ValueOption.filename.display ("Path to the configuration file [env: " ++
    filenameVariable ++ "=" ++ variableValue.getD "" ++ "]") ++
  helpLine "    " ValueOption.policyDir.display
    "Directory holding the policy files referenced by `policy_file` [default: policy]" ++
  helpLine "    " ValueOption.outputDir.display
    "Where the templates are written [default: output_templates]" ++
  helpLine "    " ValueOption.format.display "[default: yaml] [possible values: json, yaml]" ++
  helpLine "-v, " Flag.verbose.display "Log at info level" ++
  helpLine "-d, " Flag.debug.display "Log at debug level" ++
  helpLine "-h, " Flag.help.display "Print help" ++
  helpLine "-V, " Flag.version.display "Print version"

def usageReport (e : UsageError) : String :=
  "error: " ++ e.message ++ "\n\n" ++ usage ++ "\n\nFor more information, try '--help'.\n"

end OrgStacks.CommandLine
