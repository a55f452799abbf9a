namespace DalvikFold
namespace CommandLine

/-!
Requests: what the arguments of the command line ask for.

Arguments are read in order.  Asking for help or for the version settles the
request at once, whatever follows, and so does the first argument that cannot be
read.
-/

/-- The settings of one report on a listing. -/
structure Options where
  /-- The file with the settings. -/
  config : Option String := none
  /-- The only method to report on, or the name of a listing without methods. -/
  method : Option String := none
  foldConstants : Bool := false
  execute : Bool := false
  trace : Bool := false
  deriving Repr, DecidableEq

/-- What the arguments ask for. -/
inductive Request where
  | help
  | version
  /-- A report on the listing of this name. -/
  | report (listing : String) (options : Options)
  deriving Repr, DecidableEq

/-- Why the arguments cannot be read. -/
inductive UsageError where
  | missingConfigFile
  | missingDescriptor
  | unknownOption (argument : String)
  | manyListings
  | missingListing
  deriving Repr, DecidableEq

def UsageError.message : UsageError -> String
  | .missingConfigFile => "Missing file after --config"
  | .missingDescriptor => "Missing descriptor after --method"
  | .unknownOption argument => s!"Unknown option: {argument}"
  | .manyListings => "Multiple listings specified"
  | .missingListing => "Missing listing"

/-- What kind of argument a text is. -/
inductive ArgumentKind where
  | help
  | version
  | config
  | method
  | foldConstants
  | execute
  | trace
  /-- It looks like an option. -/
  | unknownOption
  /-- It names a listing. -/
  | listing
  deriving Repr, DecidableEq

/-- The kind of an argument.  A dash alone names a listing. -/
def ArgumentKind.ofText (argument : String) : ArgumentKind :=
  match argument with
  | "-h" => .help
  | "--help" => .help
  | "-v" => .version
  | "--version" => .version
  | "-c" => .config
  | "--config" => .config
  | "-m" => .method
  | "--method" => .method
  | "--fold-constants" => .foldConstants
  | "--execute" => .execute
  | "--trace" => .trace
  | "-" => .listing
  | _ => if argument.toList.head? = some '-' then .unknownOption else .listing

/-- The request of arguments, after those that named the given listing and set
the given options. -/
def requestAfter (listing : Option String) (options : Options) :
    List String -> Except UsageError Request
  | [] =>
      match listing with
      | some listing => .ok (.report listing options)
      | none => .error .missingListing
  | argument :: rest =>
      match ArgumentKind.ofText argument, rest with
      | .help, _ => .ok .help
      | .version, _ => .ok .version
      | .config, [] => .error .missingConfigFile
      | .config, path :: rest => requestAfter listing { options with config := some path } rest
      | .method, [] => .error .missingDescriptor
      | .method, descriptor :: rest =>
          requestAfter listing { options with method := some descriptor } rest
      | .foldConstants, rest => requestAfter listing { options with foldConstants := true } rest
      | .execute, rest => requestAfter listing { options with execute := true } rest
      | .trace, rest => requestAfter listing { options with trace := true } rest
      | .unknownOption, _ => .error (.unknownOption argument)
      | .listing, rest =>
          match listing with
          | some _ => .error .manyListings
          | none => requestAfter (some argument) options rest

/-- What arguments ask for. -/
def request (arguments : List String) : Except UsageError Request :=
  requestAfter none { } arguments

/-! ## What help and version show -/

def version : String := "0.2.0"

def versionLine : String :=
  "dexsimplify " ++ version ++ "\n"

def usage : String :=
  String.join ([
    "dexsimplify v" ++ version,
    "",
    "USAGE:",
    "    dexsimplify [OPTIONS] <LISTING>",
    "",
    "OPTIONS:",
    "    -h, --help               Print this help message",
    "    -v, --version            Print version information",
    "    -c, --config <FILE>      Read settings from a TOML file",
    "    -m, --method <DESC>      Only this method, or the name of a plain listing",
    "    --fold-constants         Route const instructions to the constant handler",
    "    --execute                Fold straight-line code and print the final registers",
    "                             (implies --fold-constants)",
    "    --trace                  Log every dispatch to stderr",
    "",
    "ARGUMENTS:",
    "    <LISTING>                Smali-style listing (use '-' for stdin)",
    "",
    "EXAMPLES:",
    "    dexsimplify Foo.smali",
    "    dexsimplify --execute --method 'LFoo;->bar()I' Foo.smali",
    "    echo 'add-int v0, v1, v2' | dexsimplify -"
  ].map (· ++ "\n"))

end CommandLine
end DalvikFold
