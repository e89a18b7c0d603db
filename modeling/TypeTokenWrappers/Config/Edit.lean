import TypeTokenWrappers.Config.Basic
import TypeTokenWrappers.Files.Path

/-! # Changing configurations

Operations by which a program sets up a configuration. Those with the name of
one thing add it; the others replace what was there. -/

namespace TypeTokenWrappers.Config

def setJarPrefix (beginning : String) (config : Config) : Config :=
  { config with scan := { config.scan with jarPrefix := beginning } }

def setRootNamespace (namespaceName : String) (config : Config) : Config :=
  { config with scan := { config.scan with rootNamespace := namespaceName } }

def excludeType (name : String) (config : Config) : Config :=
  { config with
    scan := { config.scan with typeBlacklist := config.scan.typeBlacklist ++ [name] } }

def setMethodBlacklist (names : List String) (config : Config) : Config :=
  { config with scan := { config.scan with methodBlacklist := names } }

def setOutputPath (path : String) (config : Config) : Config :=
  { config with output := { config.output with path } }

def setPackage (package : String) (config : Config) : Config :=
  { config with output := { config.output with package } }

def addJar (path : String) (config : Config) : Config :=
  { config with classpath := { config.classpath with jars := config.classpath.jars ++ [path] } }

def setJars (paths : List String) (config : Config) : Config :=
  { config with classpath := { config.classpath with jars := paths } }

def addDirectory (path : String) (config : Config) : Config :=
  { config with
    classpath := { config.classpath with directories := config.classpath.directories ++ [path] } }

def clearDirectories (config : Config) : Config :=
  { config with classpath := { config.classpath with directories := [] } }

def resolveFrom (directory : String) (config : Config) : Config :=
  { config with
    output := { config.output with path := Path.join directory config.output.path }
    classpath := {
      jars := config.classpath.jars.map (Path.join directory)
      directories := config.classpath.directories.map (Path.join directory) } }

end TypeTokenWrappers.Config
