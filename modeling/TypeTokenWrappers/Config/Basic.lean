/-! # Configuration

What is scanned, where the result goes, and which archives there are. The
fields have the values that apply when a configuration says nothing. -/

namespace TypeTokenWrappers

namespace Config

structure Scan where
  /-- Archives are scanned only if their file name begins with this. -/
  jarPrefix : String := "gradle-"
  /-- Entries are scanned only if their name begins with this. -/
  rootNamespace : String := "org/gradle/"
  /-- Dotted names of types whose methods are never wrapped. -/
  typeBlacklist : List String := []
  methodBlacklist : List String := ["apply"]
deriving DecidableEq, Repr

structure Output where
  path : String := "build/generated-src/ReifiedTypeParametersExtensions.kt"
  package : String := "org.gradle.kotlin.dsl"
deriving DecidableEq, Repr

structure Classpath where
  jars : List String := []
  /-- Directories below which every archive is scanned, in name order. -/
  directories : List String := []
deriving DecidableEq, Repr

end Config

structure Config where
  scan : Config.Scan := {}
  output : Config.Output := {}
  classpath : Config.Classpath := {}
deriving DecidableEq, Repr

end TypeTokenWrappers
