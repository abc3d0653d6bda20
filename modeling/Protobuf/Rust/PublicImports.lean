import Mathlib.Data.List.Basic

/-!
# Re-exports of publicly imported files

`EmitPublicImports` (compiler/rust/generator.cc) walks the files a `.proto` file imports
publicly, transitively, with a worklist, and for each file outside the crate being generated
emits the block of `EmitPublicImportsForDepFile`: a `pub use` of every top-level message with its
`View` and `Mut` types, and of every top-level enum. The worklist keeps no set of visited files.

The descriptor pool is data here: a file is named by its index, and the model keeps of it what the
loop reads, the `RsTypePath` of each top-level message and enum and its public dependencies; the
crate's files are those `is_file_in_current_crate` accepts. The loop is given fuel, so that it is
a total function of the pool; the pools protoc builds have no cycle of imports, and on them enough
fuel gives the C++ loop's output (`emitPublicImports_eq`).

Results:
* `emitPublicImports_eq`: with enough fuel, the output is the blocks of the files `visits` lists,
  one visit of a file for each path of public imports that leads to it.
* `mem_visits_iff`: the files `visits` lists are exactly those reached along public imports, so
  the loop re-exports the transitive public imports.
* `emitPublicImports_diamond`: where two public imports both import one file publicly, its block
  is emitted twice, and the generated Rust defines each of its names twice.
-/

namespace Protobuf.Rust

/-- What the loop reads of a `FileDescriptor`: the `RsTypePath` of each top-level message and
enum, in order, and `public_dependency(i)` for each `i`, as indices of the pool. -/
structure FileDescriptor where
  messageTypes : List String
  enumTypes : List String
  publicDependencies : List Nat

/-- The descriptor pool, by index, and the files of the crate being generated. -/
structure RustGeneratorContext where
  files : Nat → FileDescriptor
  filesInCurrentCrate : List Nat

/-- `RustGeneratorContext::is_file_in_current_crate`. -/
def RustGeneratorContext.isFileInCurrentCrate (ctx : RustGeneratorContext) (f : Nat) : Bool :=
  ctx.filesInCurrentCrate.contains f

/-- `EmitPublicImportsForDepFile`: the lines `ctx.Emit` prints for a publicly imported file. -/
def emitPublicImportsForDepFile (dep : FileDescriptor) : List String :=
  (dep.messageTypes.flatMap fun path =>
    ["pub use " ++ path ++ ";", "pub use " ++ path ++ "View;", "pub use " ++ path ++ "Mut;"]) ++
  dep.enumTypes.map fun path => "pub use " ++ path ++ ";"

/-- What one iteration of the loop emits for the file it takes. -/
def emitFile (ctx : RustGeneratorContext) (f : Nat) : List String :=
  if ctx.isFileInCurrentCrate f then [] else emitPublicImportsForDepFile (ctx.files f)

/-- The `while` loop of `EmitPublicImports` on `files_to_visit`, whose back is the head of the
list: take the back, emit for it, push its public dependencies in order. `none` when `fuel`
iterations do not empty the worklist. -/
def emitPublicImportsLoop (ctx : RustGeneratorContext) : Nat → List Nat → Option (List String)
  | _, [] => some []
  | 0, _ :: _ => none
  | fuel + 1, f :: filesToVisit =>
    (emitPublicImportsLoop ctx fuel ((ctx.files f).publicDependencies.reverse ++ filesToVisit)).map
      (emitFile ctx f ++ ·)

/-- `EmitPublicImports(ctx, file)`: the worklist starts with the file itself. -/
def emitPublicImports (ctx : RustGeneratorContext) (fuel file : Nat) : Option (List String) :=
  emitPublicImportsLoop ctx fuel [file]

/-! ## What the loop emits -/

/-- The files the loop takes, in its order, starting from `f`: `f`, then the files taken from each
of its public dependencies, the last first. A file comes once for each path of public imports
from `f` to it. `none` when a path is longer than `depth`. -/
def visits (ctx : RustGeneratorContext) : Nat → Nat → Option (List Nat)
  | 0, _ => none
  | depth + 1, f =>
    ((ctx.files f).publicDependencies.reverse.mapM (visits ctx depth)).map fun below => f :: below.flatten

theorem mapM_cons_eq_some {f : Nat → Option (List Nat)} {a : Nat} {l : List Nat} {bs : List (List Nat)} :
    (a :: l).mapM f = some bs ↔ ∃ b rest, f a = some b ∧ l.mapM f = some rest ∧ bs = b :: rest := by
  simp only [List.mapM_cons, bind, Option.bind_eq_some, pure, Option.some.injEq]
  exact ⟨fun ⟨b, found, rest, others, done⟩ => ⟨b, rest, found, others, done.symm⟩,
    fun ⟨b, rest, found, others, done⟩ => ⟨b, found, rest, others, done.symm⟩⟩

theorem mapM_append_eq_some {f : Nat → Option (List Nat)} {l₁ l₂ : List Nat} {bs₁ bs₂ : List (List Nat)}
    (first : l₁.mapM f = some bs₁) (second : l₂.mapM f = some bs₂) :
    (l₁ ++ l₂).mapM f = some (bs₁ ++ bs₂) := by
  rw [List.mapM_append, first, second]
  rfl

/-- Visits found within a depth are found, the same, within any larger depth. -/
theorem mapM_visits_succ {ctx : RustGeneratorContext} {depth : Nat} {gs : List Nat}
    {ls : List (List Nat)} (found : gs.mapM (visits ctx depth) = some ls) :
    gs.mapM (visits ctx (depth + 1)) = some ls := by
  induction depth generalizing gs ls with
  | zero =>
    cases gs with
    | nil => exact found
    | cons g gs =>
      obtain ⟨l, _, first, _, _⟩ := mapM_cons_eq_some.1 found
      cases first
  | succ depth ih =>
    induction gs generalizing ls with
    | nil => exact found
    | cons g gs ihList =>
      obtain ⟨l, rest, first, others, rfl⟩ := mapM_cons_eq_some.1 found
      obtain ⟨below, deps, rfl⟩ := Option.map_eq_some'.1 first
      refine mapM_cons_eq_some.2 ⟨_, rest, ?_, ihList others, rfl⟩
      rw [visits, ih deps]
      rfl

/-- With enough fuel, the loop on a worklist emits, in order, for each file the visits from the
worklist's files list. -/
theorem emitPublicImportsLoop_of_visits {ctx : RustGeneratorContext} {depth fuel : Nat}
    {filesToVisit : List Nat} {ls : List (List Nat)}
    (found : filesToVisit.mapM (visits ctx depth) = some ls) (enough : ls.flatten.length < fuel) :
    emitPublicImportsLoop ctx fuel filesToVisit = some (ls.flatten.flatMap (emitFile ctx)) := by
  induction fuel generalizing filesToVisit ls with
  | zero => cases enough
  | succ fuel ih =>
    cases filesToVisit with
    | nil =>
      simp only [List.mapM_nil, pure, Option.some.injEq] at found
      subst found
      rfl
    | cons f rest =>
      obtain ⟨l, others, first, restFound, rfl⟩ := mapM_cons_eq_some.1 found
      cases depth with
      | zero => cases first
      | succ depth =>
        obtain ⟨below, deps, rfl⟩ := Option.map_eq_some'.1 first
        have shorter : (below ++ others).flatten.length < fuel := by
          simp only [List.flatten_cons, List.flatten_append, List.length_append, List.length_cons,
            List.cons_append] at enough ⊢
          omega
        rw [emitPublicImportsLoop, ih (mapM_append_eq_some (mapM_visits_succ deps) restFound) shorter]
        simp

/-- With enough fuel, `EmitPublicImports` emits the block of every file `visits` lists, in that
order, once per path of public imports. -/
theorem emitPublicImports_eq {ctx : RustGeneratorContext} {depth fuel file : Nat} {files : List Nat}
    (found : visits ctx depth file = some files) (enough : files.length < fuel) :
    emitPublicImports ctx fuel file = some (files.flatMap (emitFile ctx)) := by
  have stack : [file].mapM (visits ctx depth) = some [files] := by
    rw [List.mapM_cons, found, List.mapM_nil]
    rfl
  simpa using emitPublicImportsLoop_of_visits stack (by simpa using enough)

/-! ## The loop takes the transitive public imports -/

/-- `g` is reached from `f` along public imports: `f` itself, or a file reached from one of its
public dependencies. -/
inductive PubliclyImports (ctx : RustGeneratorContext) : Nat → Nat → Prop
  | refl (f : Nat) : PubliclyImports ctx f f
  | dep {f g h : Nat} : g ∈ (ctx.files f).publicDependencies → PubliclyImports ctx g h →
      PubliclyImports ctx f h

theorem exists_of_mapM_eq_some {f : Nat → Option (List Nat)} {l : List Nat} {bs : List (List Nat)}
    (found : l.mapM f = some bs) {a : Nat} (mem : a ∈ l) : ∃ b, f a = some b := by
  induction l generalizing bs with
  | nil => cases mem
  | cons x l ih =>
    obtain ⟨b, rest, first, others, -⟩ := mapM_cons_eq_some.1 found
    rcases List.mem_cons.1 mem with rfl | later
    · exact ⟨b, first⟩
    · exact ih others later

theorem mem_flatten_of_mapM_eq_some {f : Nat → Option (List Nat)} {l : List Nat}
    {bs : List (List Nat)} (found : l.mapM f = some bs) (x : Nat) :
    x ∈ bs.flatten ↔ ∃ a ∈ l, ∃ b, f a = some b ∧ x ∈ b := by
  induction l generalizing bs with
  | nil =>
    cases found
    simp
  | cons a l ih =>
    obtain ⟨b, rest, first, others, rfl⟩ := mapM_cons_eq_some.1 found
    simp [ih others, first]

/-- The files the loop takes from `f`, as `visits` lists them, are exactly the files reached from
`f` along public imports: `EmitPublicImports` re-exports the transitive public imports, as its
comment says, each as often as `visits` lists it. -/
theorem mem_visits_iff {ctx : RustGeneratorContext} {depth f : Nat} {files : List Nat}
    (found : visits ctx depth f = some files) (g : Nat) : g ∈ files ↔ PubliclyImports ctx f g := by
  induction depth generalizing f files with
  | zero => cases found
  | succ depth ih =>
    obtain ⟨below, deps, rfl⟩ := Option.map_eq_some'.1 found
    rw [List.mem_cons, mem_flatten_of_mapM_eq_some deps]
    constructor
    · rintro (rfl | ⟨dep, mem, files, visited, inFiles⟩)
      · exact .refl g
      · exact .dep (List.mem_reverse.1 mem) ((ih visited).1 inFiles)
    · intro path
      cases path with
      | refl => exact .inl rfl
      | dep public path =>
        obtain ⟨files, visited⟩ := exists_of_mapM_eq_some deps (List.mem_reverse.2 public)
        exact .inr ⟨_, List.mem_reverse.2 public, files, visited, (ih visited).2 path⟩

/-! ## A diamond of public imports -/

/-- `a.proto` (file 0, in the crate) imports `b.proto` and `c.proto` publicly; both import
`d.proto` publicly, which defines the message `d::Msg`. -/
def diamond : RustGeneratorContext where
  files
    | 0 => ⟨[], [], [1, 2]⟩
    | 1 => ⟨[], [], [3]⟩
    | 2 => ⟨[], [], [3]⟩
    | 3 => ⟨["d::Msg"], [], []⟩
    | _ => ⟨[], [], []⟩
  filesInCurrentCrate := [0]

theorem emitPublicImports_eq_diamond :
    visits diamond 3 0 = some [0, 2, 3, 1, 3] ∧ [0, 2, 3, 1, 3].length < 6 ∧
      emitPublicImports diamond 6 0 = some ([0, 2, 3, 1, 3].flatMap (emitFile diamond)) :=
  have found : visits diamond 3 0 = some [0, 2, 3, 1, 3] := rfl
  ⟨found, by decide, emitPublicImports_eq found (by decide)⟩

theorem mem_visits_iff_diamond :
    visits diamond 3 0 = some [0, 2, 3, 1, 3] ∧ (3 ∈ [0, 2, 3, 1, 3] ↔ PubliclyImports diamond 0 3) :=
  have found : visits diamond 3 0 = some [0, 2, 3, 1, 3] := rfl
  ⟨found, mem_visits_iff found 3⟩

/-- `d.proto` is reached along two paths and its block is emitted twice: the generated Rust
re-exports `d::Msg`, `d::MsgView` and `d::MsgMut` twice each. -/
theorem emitPublicImports_diamond :
    emitPublicImports diamond 5 0 =
      some ["pub use d::Msg;", "pub use d::MsgView;", "pub use d::MsgMut;",
        "pub use d::Msg;", "pub use d::MsgView;", "pub use d::MsgMut;"] := by
  rfl

end Protobuf.Rust
