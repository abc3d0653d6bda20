import Mathlib.Data.List.Nodup
import Protobuf.Rust.PublicImports

/-!
# `RustGenerator::Generate` over a crate

protoc calls `Generate` once for each file of the crate it compiles, the files `ListParsedFiles`
lists, and stops at the first call that fails. A call whose options or crate mapping do not parse
fails with the parser's message and writes nothing. Otherwise it writes the file's `.rs`: a check
of the runtime version, the re-exports of its public imports (`EmitPublicImports`), then the code
of each message and of each enum; with the C++ kernel also the thunks `.cc`, which includes the
headers of the file and of its dependencies. The call for the first file of the crate also writes
the crate's entry point (`EmitEntryPointRsFile`), which declares the module of every file of the
crate and re-exports it.

What `Generate` calls outside generator.cc is a parameter, `GeneratorEnv`: the results of
`Options::Parse` and `GetImportPathToCrateNameMap`, `PROTOBUF_RUST_VERSION_STRING`, the file names
of naming.h and relative_path.h, and the lines `GenerateRs`, `GenerateThunksCc` and
`GenerateEnumDefinition` print. `EmitPublicImports` is given fuel, as in `PublicImports.lean`: a
call that needs more iterations than the fuel is `none`.

Results:
1. `generateFiles_eq_ok`: a run that succeeds writes, file after file, what each call writes.
2. `generateAll_paths_nodup`: when the names of naming.h tell files apart, a run writes no path
   twice exactly when the crate lists each file once.
3. `generateAll_entryPoint`: a run writes the entry point once, for the crate's first file, and it
   declares and re-exports the module of every file of the crate.
-/

namespace Protobuf.Rust

/-- `Options::kernel`: the runtime the generated code binds to; `ctx.is_cpp()` holds for the C++
kernel. -/
inductive Kernel
  | cpp
  | upb
deriving DecidableEq, Repr

/-- What `Generate` reads of the parsed `Options`. -/
structure Options where
  kernel : Kernel
  stripNonfunctionalCodegen : Bool
deriving DecidableEq, Repr

/-- What `Generate` calls outside generator.cc, as data: how `Options::Parse(parameter)` and
`GetImportPathToCrateNameMap` end, `PROTOBUF_RUST_VERSION_STRING`, each file's `dependency(i)`,
the names `GetRsFile`, `GetThunkCcFile`, `GetHeaderFile`, `GetEntryPointRsFilePath`,
`RustInternalModuleName` and `RelativePath::Relative` give, `IsKnownFeatureProto`, the full names
of messages and enums, and the lines the code generators of the other files print for the `i`-th
message or enum of a file. -/
structure GeneratorEnv where
  options : Except String Options
  importPathToCrateName : Except String Unit
  rustVersionString : String
  dependencies : Nat → List Nat
  rsFile : Nat → String
  thunkCcFile : Nat → String
  headerFile : Nat → String
  entryPointRsFilePath : Nat → String
  rustInternalModuleName : Nat → String
  relativePath : String → String → String
  isKnownFeatureProto : Nat → Bool
  messageFullName : Nat → Nat → String
  enumFullName : Nat → Nat → String
  generateRs : Nat → Nat → List String
  generateThunksCc : Nat → Nat → List String
  generateEnumDefinition : Nat → Nat → List String

/-- A file `GeneratorContext::Open` hands out, with the lines printed to it. -/
structure OutputFile where
  path : String
  lines : List String
deriving DecidableEq, Repr

/-- `absl::StripSuffix`. -/
def stripSuffix (s suffix : String) : String :=
  if s.endsWith suffix then s.dropRight suffix.length else s

/-- The line that checks the runtime against `expected_runtime_version`, the version string with
its `-dev` suffix replaced by `-beta`. -/
def versionCheck (env : GeneratorEnv) : String :=
  "const _: () = ::protobuf::__internal::assert_compatible_gencode_version(\"" ++
    stripSuffix env.rustVersionString "-dev" ++ "-beta\");"

/-- `EmitEntryPointRsFile(generator_context, ctx, files)`, named after `files.front()`: for each
file, its module, at its path relative to the entry point, and a glob re-export of it. -/
def emitEntryPointRsFile (env : GeneratorEnv) (files : List Nat) (front : Nat) : OutputFile :=
  let entryPointRsFilePath := env.entryPointRsFilePath front
  ⟨entryPointRsFilePath, files.flatMap fun file =>
    let modName := env.rustInternalModuleName file
    ["#[path=\"" ++ env.relativePath entryPointRsFilePath (env.rsFile file) ++ "\"]",
      "#[allow(non_snake_case)]", "pub mod internal_do_not_use_" ++ modName ++ ";", "",
      "#[allow(unused_imports)]", "pub use internal_do_not_use_" ++ modName ++ "::*;"]⟩

/-- The `#include` line of a header. -/
def includeLine (header : String) : String := "#include \"" ++ header ++ "\""

/-- The thunks `.cc` of a file: its header, the headers of its dependencies (feature protos
stripped when `strip_nonfunctional_codegen` is set), the runtime's headers, then each message's
full name and thunks, and each enum's full name. -/
def thunksCc (env : GeneratorEnv) (opts : Options) (ctx : RustGeneratorContext) (file : Nat) :
    OutputFile :=
  ⟨env.thunkCcFile file,
    [includeLine (env.headerFile file)] ++
    ((env.dependencies file).filter fun dep =>
      !(opts.stripNonfunctionalCodegen && env.isKnownFeatureProto dep)).map
        (includeLine ∘ env.headerFile) ++
    ["google/protobuf/map.h", "google/protobuf/repeated_field.h", "google/protobuf/repeated_ptr_field.h",
      "rust/cpp_kernel/serialized_data.h", "rust/cpp_kernel/strings.h"].map includeLine ++
    (List.range (ctx.files file).messageTypes.length).flatMap (fun i =>
      ["// " ++ env.messageFullName file i] ++ env.generateThunksCc file i ++ [""]) ++
    (List.range (ctx.files file).enumTypes.length).flatMap fun i =>
      ["// " ++ env.enumFullName file i, ""]⟩

/-- The `.rs` of a file: the version check, the re-exports of its public imports, then the code of
each message and of each enum, each followed by a newline. -/
def rsFileLines (env : GeneratorEnv) (ctx : RustGeneratorContext) (file : Nat)
    (publicImports : List String) : List String :=
  [versionCheck env] ++ publicImports ++
  (List.range (ctx.files file).messageTypes.length).flatMap (fun i => env.generateRs file i ++ [""]) ++
  (List.range (ctx.files file).enumTypes.length).flatMap fun i => env.generateEnumDefinition file i ++ [""]

/-- The files a call of `Generate` on `file` opens, in order, once its public imports are known:
the `.rs`; the entry point when `file` is `files_in_current_crate.front()`; the thunks with the
C++ kernel. -/
def generatedFiles (env : GeneratorEnv) (ctx : RustGeneratorContext) (opts : Options) (file : Nat)
    (publicImports : List String) : List OutputFile :=
  [⟨env.rsFile file, rsFileLines env ctx file publicImports⟩] ++
  (if ctx.filesInCurrentCrate.head? = some file then
    [emitEntryPointRsFile env ctx.filesInCurrentCrate file] else []) ++
  (if opts.kernel = .cpp then [thunksCc env opts ctx file] else [])

/-- `RustGenerator::Generate(file, parameter, generator_context, error)`: `.error` is `false` with
`*error` set, `.ok` the files written; `none` when `EmitPublicImports` does not end within
`fuel`. -/
def generate (env : GeneratorEnv) (ctx : RustGeneratorContext) (fuel file : Nat) :
    Option (Except String (List OutputFile)) :=
  match env.options, env.importPathToCrateName with
  | .error message, _ => some (.error message)
  | .ok _, .error message => some (.error message)
  | .ok opts, .ok () =>
    (emitPublicImports ctx fuel file).map fun publicImports =>
      .ok (generatedFiles env ctx opts file publicImports)

/-- `Generate` on each of `files` in turn, stopping at the first call that fails. -/
def generateFiles (env : GeneratorEnv) (ctx : RustGeneratorContext) (fuel : Nat) :
    List Nat → Option (Except String (List OutputFile))
  | [] => some (.ok [])
  | file :: files =>
    (generate env ctx fuel file).bind fun
      | .ok outputs => (generateFiles env ctx fuel files).map (Except.map (outputs ++ ·))
      | .error message => some (.error message)

/-- A protoc run of the generator: `Generate` on every file of the crate. -/
def generateAll (env : GeneratorEnv) (ctx : RustGeneratorContext) (fuel : Nat) :
    Option (Except String (List OutputFile)) :=
  generateFiles env ctx fuel ctx.filesInCurrentCrate

/-! ## What a run writes -/

section Run

variable {env : GeneratorEnv} {ctx : RustGeneratorContext} {fuel : Nat} {opts : Options}

/-- A call that succeeds writes the files of `generatedFiles` for the file's public imports. -/
theorem generate_eq_ok (options : env.options = .ok opts) {file : Nat} {outputs : List OutputFile}
    (called : generate env ctx fuel file = some (.ok outputs)) :
    outputs = generatedFiles env ctx opts file ((emitPublicImports ctx fuel file).getD []) := by
  unfold generate at called
  cases mapping : env.importPathToCrateName with
  | error message => simp only [options, mapping] at called; cases called
  | ok u =>
    simp only [options, mapping] at called
    obtain ⟨publicImports, emitted, done⟩ := Option.map_eq_some'.1 called
    cases done
    rw [emitted]
    rfl

/-- A run that succeeds writes, file after file, what each call writes. -/
theorem generateFiles_eq_ok (options : env.options = .ok opts) {files : List Nat}
    {outputs : List OutputFile} (run : generateFiles env ctx fuel files = some (.ok outputs)) :
    outputs = files.flatMap fun file =>
      generatedFiles env ctx opts file ((emitPublicImports ctx fuel file).getD []) := by
  induction files generalizing outputs with
  | nil => cases run; rfl
  | cons file files ih =>
    obtain ⟨result, called, rest⟩ := Option.bind_eq_some.1 run
    cases result with
    | error message => cases rest
    | ok first =>
      obtain ⟨others, later, done⟩ := Option.map_eq_some'.1 rest
      cases others with
      | error message => cases done
      | ok others =>
        cases done
        rw [List.flatMap_cons, ← generate_eq_ok options called, ← ih later]

/-- The paths a call on `file` writes. -/
def generatedPaths (env : GeneratorEnv) (ctx : RustGeneratorContext) (opts : Options) (file : Nat) :
    List String :=
  [env.rsFile file] ++
  (if ctx.filesInCurrentCrate.head? = some file then [env.entryPointRsFilePath file] else []) ++
  (if opts.kernel = .cpp then [env.thunkCcFile file] else [])

theorem paths_generatedFiles (file : Nat) (publicImports : List String) :
    (generatedFiles env ctx opts file publicImports).map OutputFile.path = generatedPaths env ctx opts file := by
  unfold generatedFiles generatedPaths
  split <;> split <;> rfl

theorem mem_generatedPaths {file : Nat} {path : String} :
    path ∈ generatedPaths env ctx opts file ↔
      path = env.rsFile file ∨ (ctx.filesInCurrentCrate.head? = some file ∧ path = env.entryPointRsFilePath file) ∨
        (opts.kernel = .cpp ∧ path = env.thunkCcFile file) := by
  unfold generatedPaths
  split <;> split <;> simp_all

/-- The paths a run writes: those of each call, in order. -/
theorem paths_generateFiles (options : env.options = .ok opts) {files : List Nat}
    {outputs : List OutputFile} (run : generateFiles env ctx fuel files = some (.ok outputs)) :
    outputs.map OutputFile.path = files.flatMap (generatedPaths env ctx opts) := by
  rw [generateFiles_eq_ok options run, List.map_flatMap]
  exact List.flatMap_congr fun file _ => paths_generatedFiles file _

end Run

/-- The names of naming.h tell files apart: no two files share a `.rs` or a thunks `.cc`, and no
`.rs`, thunks `.cc` or entry point shares a path with a file of another kind. -/
structure DistinctPaths (env : GeneratorEnv) : Prop where
  rsFile_injective : ∀ f g, env.rsFile f = env.rsFile g → f = g
  thunkCcFile_injective : ∀ f g, env.thunkCcFile f = env.thunkCcFile g → f = g
  rsFile_ne_thunkCcFile : ∀ f g, env.rsFile f ≠ env.thunkCcFile g
  entryPoint_ne_rsFile : ∀ f g, env.entryPointRsFilePath f ≠ env.rsFile g
  entryPoint_ne_thunkCcFile : ∀ f g, env.entryPointRsFilePath f ≠ env.thunkCcFile g

section Names

variable {env : GeneratorEnv} {ctx : RustGeneratorContext} {fuel : Nat} {opts : Options}

theorem DistinctPaths.generatedPaths_nodup (names : DistinctPaths env) (file : Nat) :
    (generatedPaths env ctx opts file).Nodup := by
  have rsEntry := names.entryPoint_ne_rsFile file file
  have rsThunk := names.rsFile_ne_thunkCcFile file file
  have entryThunk := names.entryPoint_ne_thunkCcFile file file
  unfold generatedPaths
  split <;> split <;> simp [rsEntry.symm, rsThunk, entryThunk]

/-- Two files write no path in common. -/
theorem DistinctPaths.generatedPaths_disjoint (names : DistinctPaths env) {f g : Nat} (other : f ≠ g) :
    (generatedPaths env ctx opts f).Disjoint (generatedPaths env ctx opts g) := by
  intro path inF inG
  rw [mem_generatedPaths] at inF inG
  rcases inF with rfl | ⟨frontF, rfl⟩ | ⟨-, rfl⟩ <;> rcases inG with same | ⟨frontG, same⟩ | ⟨-, same⟩
  · exact other (names.rsFile_injective f g same)
  · exact names.entryPoint_ne_rsFile g f same.symm
  · exact names.rsFile_ne_thunkCcFile f g same
  · exact names.entryPoint_ne_rsFile f g same
  · exact other (Option.some.inj (frontF.symm.trans frontG))
  · exact names.entryPoint_ne_thunkCcFile f g same
  · exact names.rsFile_ne_thunkCcFile g f same.symm
  · exact names.entryPoint_ne_thunkCcFile g f same.symm
  · exact other (names.thunkCcFile_injective f g same)

/-- When the names of naming.h tell files apart, a run of the generator writes no path twice
exactly when the crate lists each of its files once: the entry point is written only by the call
for the crate's first file. -/
theorem generateAll_paths_nodup (names : DistinctPaths env) (options : env.options = .ok opts)
    {outputs : List OutputFile} (run : generateAll env ctx fuel = some (.ok outputs)) :
    (outputs.map OutputFile.path).Nodup ↔ ctx.filesInCurrentCrate.Nodup := by
  rw [paths_generateFiles options run, List.nodup_flatMap]
  constructor
  · rintro ⟨-, disjoint⟩
    refine disjoint.imp fun {f g} apart same => ?_
    subst same
    exact apart (mem_generatedPaths.2 (.inl rfl)) (mem_generatedPaths.2 (.inl rfl))
  · intro unique
    exact ⟨fun file _ => names.generatedPaths_nodup file,
      unique.imp fun other => names.generatedPaths_disjoint other⟩

/-- What a call on `file` writes at the entry point's path, in a crate whose first file is
`front`: the entry point if `file` is `front`, nothing otherwise. -/
theorem DistinctPaths.filter_entryPoint (names : DistinctPaths env) {front : Nat} {rest : List Nat}
    (crate : ctx.filesInCurrentCrate = front :: rest) (file : Nat) (publicImports : List String) :
    (generatedFiles env ctx opts file publicImports).filter
        (fun output => decide (output.path = env.entryPointRsFilePath front)) =
      if file = front then [emitEntryPointRsFile env (front :: rest) front] else [] := by
  have rsEntry := (names.entryPoint_ne_rsFile front file).symm
  have thunkEntry := (names.entryPoint_ne_thunkCcFile front file).symm
  unfold generatedFiles
  rw [crate, List.head?_cons]
  split <;> split <;> simp_all [thunksCc, emitEntryPointRsFile, List.filter_cons, @eq_comm _ file front]

/-- A run of the generator writes the crate's entry point once, by the call for the crate's
first file, and the entry point declares the module of every file of the crate and re-exports it,
so long as the first file is not listed again. -/
theorem generateAll_entryPoint (names : DistinctPaths env) (options : env.options = .ok opts)
    {front : Nat} {rest : List Nat} (crate : ctx.filesInCurrentCrate = front :: rest)
    (once : front ∉ rest) {outputs : List OutputFile}
    (run : generateAll env ctx fuel = some (.ok outputs)) :
    outputs.filter (fun output => decide (output.path = env.entryPointRsFilePath front)) =
        [emitEntryPointRsFile env (front :: rest) front] ∧
      ∀ file ∈ front :: rest,
        ("pub mod internal_do_not_use_" ++ env.rustInternalModuleName file ++ ";") ∈
            (emitEntryPointRsFile env (front :: rest) front).lines ∧
          ("pub use internal_do_not_use_" ++ env.rustInternalModuleName file ++ "::*;") ∈
            (emitEntryPointRsFile env (front :: rest) front).lines := by
  refine ⟨?_, fun file mem => ?_⟩
  · rw [generateFiles_eq_ok options run, crate, List.filter_flatMap, List.flatMap_cons,
      names.filter_entryPoint crate, if_pos rfl, List.flatMap_eq_nil_iff.2, List.append_nil]
    intro file mem
    rw [names.filter_entryPoint crate, if_neg fun same : file = front => once (same ▸ mem)]
  · simp only [emitEntryPointRsFile, List.mem_flatMap]
    exact ⟨⟨file, mem, by simp⟩, ⟨file, mem, by simp⟩⟩

end Names

/-! ## A crate of two files -/

/-- Two files, neither importing another, compiled into one crate. -/
def twoFileCrate : RustGeneratorContext := ⟨fun _ => ⟨[], [], []⟩, [0, 1]⟩

/-- Names that tell files apart, for the C++ kernel: the `.rs` of file `f` is `f + 1` letters
`r`, its thunks `f + 1` letters `t`, and the entry point `e`. -/
def distinctNames : GeneratorEnv where
  options := .ok ⟨.cpp, false⟩
  importPathToCrateName := .ok ()
  rustVersionString := "4.31.0-dev"
  dependencies _ := []
  rsFile f := ⟨List.replicate (f + 1) 'r'⟩
  thunkCcFile f := ⟨List.replicate (f + 1) 't'⟩
  headerFile _ := "h"
  entryPointRsFilePath _ := ⟨['e']⟩
  rustInternalModuleName _ := "m"
  relativePath _ path := path
  isKnownFeatureProto _ := false
  messageFullName _ _ := ""
  enumFullName _ _ := ""
  generateRs _ _ := []
  generateThunksCc _ _ := []
  generateEnumDefinition _ _ := []

theorem distinctNames_distinctPaths : DistinctPaths distinctNames where
  rsFile_injective f g same := by simpa [distinctNames] using congrArg String.length same
  thunkCcFile_injective f g same := by simpa [distinctNames] using congrArg String.length same
  rsFile_ne_thunkCcFile f g same := by
    simpa [distinctNames, List.replicate_succ] using congrArg (·.data.head?) same
  entryPoint_ne_rsFile f g same := by
    simpa [distinctNames, List.replicate_succ] using congrArg (·.data.head?) same
  entryPoint_ne_thunkCcFile f g same := by
    simpa [distinctNames, List.replicate_succ] using congrArg (·.data.head?) same

/-- What the run on the two files writes: the `.rs`, entry point and thunks of file 0, then the
`.rs` and thunks of file 1. -/
def twoFileOutputs : List OutputFile :=
  [0, 1].flatMap fun file => generatedFiles distinctNames twoFileCrate ⟨.cpp, false⟩ file []

theorem generateAll_twoFileCrate :
    generateAll distinctNames twoFileCrate 1 = some (.ok twoFileOutputs) := rfl

theorem generateAll_paths_nodup_twoFiles :
    DistinctPaths distinctNames ∧ distinctNames.options = .ok ⟨.cpp, false⟩ ∧
      generateAll distinctNames twoFileCrate 1 = some (.ok twoFileOutputs) ∧
      ((twoFileOutputs.map OutputFile.path).Nodup ↔ twoFileCrate.filesInCurrentCrate.Nodup) :=
  ⟨distinctNames_distinctPaths, rfl, generateAll_twoFileCrate,
    generateAll_paths_nodup distinctNames_distinctPaths rfl generateAll_twoFileCrate⟩

theorem generateAll_entryPoint_twoFiles :
    DistinctPaths distinctNames ∧ distinctNames.options = .ok ⟨.cpp, false⟩ ∧
      twoFileCrate.filesInCurrentCrate = [0, 1] ∧ 0 ∉ [1] ∧
      generateAll distinctNames twoFileCrate 1 = some (.ok twoFileOutputs) ∧
      twoFileOutputs.filter (fun output => decide (output.path = distinctNames.entryPointRsFilePath 0)) =
          [emitEntryPointRsFile distinctNames [0, 1] 0] ∧
        ∀ file ∈ [0, 1],
          ("pub mod internal_do_not_use_" ++ distinctNames.rustInternalModuleName file ++ ";") ∈
              (emitEntryPointRsFile distinctNames [0, 1] 0).lines ∧
            ("pub use internal_do_not_use_" ++ distinctNames.rustInternalModuleName file ++ "::*;") ∈
              (emitEntryPointRsFile distinctNames [0, 1] 0).lines :=
  ⟨distinctNames_distinctPaths, rfl, rfl, by decide, generateAll_twoFileCrate,
    generateAll_entryPoint distinctNames_distinctPaths rfl rfl (by decide) generateAll_twoFileCrate⟩

end Protobuf.Rust
