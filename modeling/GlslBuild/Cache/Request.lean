import GlslBuild.Cache.Release

/-!
# Resolving requests

A request is answered from the cache if its artifact is there, with one more reference to it.
Otherwise the artifact is made: an object from its source, a program from objects that are resolved
first. If anything fails, the references that were taken are given back.
-/

namespace GlslBuild.Cache

variable {Factory Native : Type}

/-- Takes one more reference to an artifact that is there. -/
def takeReference? (cache : Cache Factory Native) (identity : Identity) :
    Option (Cache Factory Native × Handle Native) :=
  (cache.artifacts.find? identity).map fun artifact =>
    (cache.store identity artifact.retain, artifact.handle identity)

/-- Puts a new artifact into the cache with one reference to it. -/
def install (cache : Cache Factory Native) (identity : Identity) (kind : ArtifactKind)
    (native : Native) (members : List Identity) : Cache Factory Native × Handle Native :=
  (cache.store identity ⟨native, kind, 1, members⟩, ⟨identity, kind, native⟩)

/-- The message about the log of a compilation that succeeded. -/
def compilerRemarks (identifier : Text) (stage : Stage) (unit : CompilationUnit)
    (output : Output Native) : List Message :=
  output.remark?.toList.map fun log =>
    .compilerOutput identifier stage (Diagnostic.annotate unit log)

/-- The message about the log of a link that succeeded. -/
def linkerRemarks (identifier : Text) (output : Output Native) : List Message :=
  output.remark?.toList.map (.linkerOutput identifier)

/-- Compiles an assembled unit. -/
def compileUnit (workshop : Workshop Factory Native) (cache : Cache Factory Native)
    (identity : Identity) (unit : CompilationUnit) :
    Cache Factory Native × Except CacheError (Handle Native) :=
  let output := workshop.toolchain.compile cache.calls unit.stage unit
  let cache := cache.record (.compile unit.stage unit output)
  match output.artifact with
  | none =>
      (cache, .error (.nativeCompile unit.identifier unit.stage
        (Diagnostic.annotate unit output.failureLog) unit.numbered))
  | some native =>
      let cache := cache.report (compilerRemarks unit.identifier unit.stage unit output ++
        [.compiled unit.identifier unit.stage identity])
      let (cache, handle) := cache.install identity (.object unit.stage) native []
      (cache, .ok handle)

/-- Makes an object from its source. -/
def buildObject (workshop : Workshop Factory Native) (cache : Cache Factory Native)
    (identity : Identity) (component : Component) (options : Options) :
    Cache Factory Native × Except CacheError (Handle Native) :=
  match workshop.library.lookup component.identifier component.stage with
  | .error error => (cache, .error (.library error))
  | .ok factory =>
      let source := workshop.toolchain.source cache.calls factory
      let outcome := Assembly.assemble workshop.config component.identifier component.stage source
        options
      let cache := (cache.record (.source factory source)).report outcome.messages
      match outcome.result with
      | .error error =>
          (cache, .error (.preprocess component.identifier component.stage error))
      | .ok unit => compileUnit workshop cache identity unit

/-- Takes a reference to an object, which is made on first use. -/
def requestObject (workshop : Workshop Factory Native) (cache : Cache Factory Native)
    (component : Component) (options : Options) :
    Cache Factory Native × Except CacheError (Handle Native) :=
  let identity := Identity.ofObject component.identifier component.stage options
  match cache.takeReference? identity with
  | some (cache, handle) =>
      (cache.report [.objectHit component.identifier component.stage], .ok handle)
  | none =>
      let miss := Message.objectMiss component.identifier component.stage identity
      buildObject workshop (cache.report [miss]) identity component options

/-- Takes references to objects in order up to the first that fails: the handles that were taken,
and how it ended. -/
def requestEach (workshop : Workshop Factory Native) (options : Options)
    (cache : Cache Factory Native) :
    List Component → Cache Factory Native × List (Handle Native) × Except CacheError Unit
  | [] => (cache, [], .ok ())
  | component :: rest =>
      match requestObject workshop cache component options with
      | (cache, .error error) => (cache, [], .error error)
      | (cache, .ok handle) =>
          let (cache, handles, result) := requestEach workshop options cache rest
          (cache, handle :: handles, result)

/-- Links objects that were resolved. The program keeps the references to them. -/
def linkProgram (workshop : Workshop Factory Native) (cache : Cache Factory Native)
    (identity : Identity) (identifier : Text) (members : List (Handle Native)) :
    Cache Factory Native × Except CacheError (Handle Native) :=
  let natives := members.map Handle.native
  let output := workshop.toolchain.link cache.calls identifier natives
  let cache := cache.record (.link identifier natives output)
  match output.artifact with
  | none => (cache.releaseHandles members, .error (.nativeLink identifier output.failureLog))
  | some native =>
      let cache := cache.report (linkerRemarks identifier output ++ [.linked identifier identity])
      let (cache, handle) := cache.install identity .program native (members.map Handle.identity)
      (cache, .ok handle)

/-- Makes a program from its components. -/
def buildProgram (workshop : Workshop Factory Native) (cache : Cache Factory Native)
    (identity : Identity) (identifier : Text) (options : Options) :
    Cache Factory Native × Except CacheError (Handle Native) :=
  match workshop.library.program identifier with
  | .error error => (cache, .error (.library error))
  | .ok program =>
      match requestEach workshop options cache program.components with
      | (cache, members, .error error) => (cache.releaseHandles members, .error error)
      | (cache, members, .ok ()) => linkProgram workshop cache identity identifier members

/-- Takes a reference to a program, which is linked on first use. -/
def requestProgram (workshop : Workshop Factory Native) (cache : Cache Factory Native)
    (identifier : Text) (options : Options) :
    Cache Factory Native × Except CacheError (Handle Native) :=
  let identity := Identity.ofProgram identifier options
  match cache.takeReference? identity with
  | some (cache, handle) => (cache.report [.programHit identifier], .ok handle)
  | none =>
      let miss := Message.programMiss identifier identity
      buildProgram workshop (cache.report [miss]) identity identifier options

end GlslBuild.Cache
