import Tryorama.Model.SignalingServer

/-!
# Reading the signalling server's address back

The address line of `hc signal-srv` is the startup string, the URL, and a newline. When the
startup string occurs first at the start of that line, and the URL includes neither a newline
nor the startup string, the listener reads exactly the URL back, whatever comes before the
line and after it (`serverUrl_reads_url`).

The listener looks at one chunk at a time, though, and a chunk boundary falls wherever the
pipe puts it: when the startup string is split over two chunks, neither includes it, and the
promise of `spawnSignalingServer` stays pending although the output holds the address.
-/

set_option autoImplicit false

namespace Tryorama.Analysis.SignalingUrl

open Tryorama.Model.SignalingServer

section Search

variable {sep : List Char}

/-- INTERNAL: the search skips a first character where `sep` does not start. -/
theorem afterFirst_cons_of_not_prefix {c : Char} {s : List Char} (h : ¬ sep <+: c :: s) :
    afterFirst sep (c :: s) = afterFirst sep s := by
  rw [afterFirst, if_neg (mt List.isPrefixOf_iff_prefix.mp h)]

/-- INTERNAL: the text before `sep` keeps a first character where `sep` does not start. -/
theorem beforeFirst_cons_of_not_prefix {c : Char} {s : List Char} (h : ¬ sep <+: c :: s) :
    beforeFirst sep (c :: s) = c :: beforeFirst sep s := by
  rw [beforeFirst, if_neg (mt List.isPrefixOf_iff_prefix.mp h)]

/-- INTERNAL: a text that does not include `sep` does not start with it, nor does its tail
include it. -/
theorem afterFirst_cons_eq_none {c : Char} {s : List Char} (h : afterFirst sep (c :: s) = none) :
    ¬ sep <+: c :: s ∧ afterFirst sep s = none := by
  rw [afterFirst] at h
  split_ifs at h with hp
  exact ⟨mt List.isPrefixOf_iff_prefix.mpr hp, h⟩

/-- INTERNAL: when `sep` does not occur in `pre` followed by all of `sep` but its last
character, its first occurrence in `pre ++ sep ++ rest` is right after `pre`. -/
theorem afterFirst_append_sep {pre : List Char} (rest : List Char)
    (h : afterFirst sep (pre ++ sep.dropLast) = none) : afterFirst sep (pre ++ sep ++ rest) = some rest := by
  induction pre with
  | nil =>
    rw [List.nil_append, afterFirst.eq_def, if_pos (List.isPrefixOf_iff_prefix.mpr (List.prefix_append _ _))]
    simp
  | cons c pre ih =>
    obtain ⟨hc, hpre⟩ := afterFirst_cons_eq_none h
    rw [List.cons_append, List.cons_append, afterFirst_cons_of_not_prefix, ih hpre]
    intro hs
    have hdrop : c :: (pre ++ sep.dropLast) <+: c :: (pre ++ sep ++ rest) := by
      rw [List.prefix_cons_inj, List.append_assoc]
      exact (List.prefix_append_right_inj pre).mpr ((List.dropLast_prefix sep).trans (List.prefix_append _ _))
    exact hc (List.prefix_of_prefix_length_le hs hdrop (by simp; omega))

/-- INTERNAL: the text before the first newline of a line is the line. -/
theorem beforeFirst_newline {l : List Char} (post : List Char) (hl : '\n' ∉ l) :
    beforeFirst ['\n'] (l ++ '\n' :: post) = l := by
  induction l with
  | nil => rw [List.nil_append, beforeFirst, if_pos (by simp)]
  | cons c l ih =>
    rw [List.mem_cons, not_or] at hl
    rw [List.cons_append, beforeFirst_cons_of_not_prefix, ih hl.2]
    exact fun hs => hl.1 (List.cons_prefix_cons.mp hs).1

variable (hsep : '\n' ∉ sep) (hne : sep ≠ [])
include hsep hne

/-- INTERNAL: the text before `sep` runs on past a newline, where `sep` cannot start. -/
theorem beforeFirst_append_newline {l : List Char} (post : List Char) (h : afterFirst sep l = none) :
    beforeFirst sep (l ++ '\n' :: post) = l ++ '\n' :: beforeFirst sep post := by
  induction l with
  | nil =>
    refine beforeFirst_cons_of_not_prefix fun hs => hsep ?_
    obtain ⟨m, ms, rfl⟩ := List.exists_cons_of_ne_nil hne
    obtain ⟨rfl, -⟩ := List.cons_prefix_cons.mp hs
    exact List.mem_cons_self _ _
  | cons c l ih =>
    obtain ⟨hc, hl⟩ := afterFirst_cons_eq_none h
    rw [List.cons_append, beforeFirst_cons_of_not_prefix, ih hl, List.cons_append]
    intro hs
    have hline : c :: l ++ ['\n'] <+: c :: (l ++ '\n' :: post) := ⟨post, by simp⟩
    rcases List.prefix_or_prefix_of_prefix hs hline with h₁ | h₁
    · rcases List.prefix_concat_iff.mp h₁ with rfl | h₂
      · exact hsep (by simp)
      · exact hc h₂
    · exact hsep (h₁.subset (by simp))

end Search

/-! ## The address line -/

/-- INTERNAL: the startup string has no newline. -/
theorem newline_not_mem_startupString : '\n' ∉ signalingServerStartupString := by decide

/-- INTERNAL: the startup string is not empty. -/
theorem startupString_ne_nil : signalingServerStartupString ≠ [] := by decide

/-- When the startup string occurs first at the start of the address line, and the URL
includes neither a newline nor the startup string, the listener reads the URL back from the
chunk, whatever text comes before the line and after it. -/
theorem serverUrl_reads_url (pre url post : List Char)
    (hpre : afterFirst signalingServerStartupString (pre ++ signalingServerStartupString.dropLast) = none)
    (hnl : '\n' ∉ url) (hurl : afterFirst signalingServerStartupString url = none) :
    serverUrl (pre ++ signalingServerStartupString ++ url ++ '\n' :: post) = some url := by
  rw [serverUrl, List.append_assoc (pre ++ _), afterFirst_append_sep _ hpre, Option.map_some',
    beforeFirst_append_newline newline_not_mem_startupString startupString_ne_nil post hurl,
    beforeFirst_newline _ hnl]

/-- A line of log, then the address line, then more output. -/
theorem log_then_address_read :
    afterFirst signalingServerStartupString
        ("spawning\n".toList ++ signalingServerStartupString.dropLast) = none ∧
      '\n' ∉ "ws://127.0.0.1:9000".toList ∧
      afterFirst signalingServerStartupString "ws://127.0.0.1:9000".toList = none ∧
      serverUrl ("spawning\n".toList ++ signalingServerStartupString ++ "ws://127.0.0.1:9000".toList ++
        '\n' :: "ready".toList) = some "ws://127.0.0.1:9000".toList :=
  have hpre : afterFirst signalingServerStartupString
      ("spawning\n".toList ++ signalingServerStartupString.dropLast) = none := by decide
  have hnl : '\n' ∉ "ws://127.0.0.1:9000".toList := by decide
  have hurl : afterFirst signalingServerStartupString "ws://127.0.0.1:9000".toList = none := by decide
  ⟨hpre, hnl, hurl, serverUrl_reads_url _ _ _ hpre hnl hurl⟩

/-- The address line with the startup string split over two chunks: no chunk includes it,
and the promise stays pending. -/
example : spawnSignalingServer ["HC SIGNAL".toList, " SRV - ADDR: ws://127.0.0.1:9000\n".toList] = none := by
  decide

end Tryorama.Analysis.SignalingUrl
