import DocBridge.Cli.Arguments
import DocBridge.Proofs.Except
import Mathlib.Data.List.Basic

/-!
# Reading arguments

Arguments are read one by one, so what is written behind them is read with the options that they
set. A language can be named behind arguments that leave it open, and nothing else changes.
-/

namespace DocBridge.Cli.Options

/-- The options with a source language named in them. -/
def naming (options : Options) (name : String) : Options := { options with source? := some name }

variable {options result : Options} {isFirst : Bool} {waiting? : Option Parameter}
  {arguments : List String} {name : String}

theorem eq_of_finish (h : options.finish = .ok result) : result = options := by
  rw [finish] at h
  split at h
  · simp at h
  · exact (Except.ok.inj h).symm

theorem finish_naming (h : options.finish = .ok result) :
    (options.naming name).finish = .ok (options.naming name) := by
  rw [finish] at h ⊢
  split at h
  · simp at h
  · rename_i hinput
    exact if_neg hinput

theorem readFlag?_from (options : Options) :
    options.readFlag? "--from" = some (.ok (options, some .source)) := by
  have hflag : options.readLong ['f', 'r', 'o', 'm'] = .ok (options, some .source) := by
    have hletters : String.ofList (['f', 'r', 'o', 'm'].takeWhile (· ≠ '=')) = "from" := by decide
    rw [readLong, hletters]
    rfl
  exact congrArg some hflag

theorem readAll_from (hname : looksLikeFlag name = false) (hsource : options.source? = none)
    (h : options.finish = .ok result) :
    readAll options isFirst none ["--from", name] = .ok (result.naming name) := by
  have hassign : options.assign .source name = .ok (options.naming name) := by
    rw [assign, hsource]
    rfl
  obtain rfl := eq_of_finish h
  simp [readAll, readFlag?_from, hname, hassign, finish_naming h, bind, Except.bind]

/-- A source language can be named behind all other arguments, unless these end the flags. -/
theorem readAll_append_from (hname : looksLikeFlag name = false) (hplain : "--" ∉ arguments)
    (h : readAll options isFirst waiting? arguments = .ok result)
    (hsource : result.source? = none) :
    readAll options isFirst waiting? (arguments ++ ["--from", name]) =
      .ok (result.naming name) := by
  induction arguments generalizing options isFirst waiting? with
  | nil =>
      rw [readAll] at h
      split at h
      · simp at h
      · rename_i hwaiting
        obtain rfl : waiting? = none := by simpa using hwaiting
        exact readAll_from hname (eq_of_finish h ▸ hsource) h
  | cons argument rest ih =>
      obtain ⟨hne, hrest⟩ : "--" ≠ argument ∧ "--" ∉ rest := by simpa using hplain
      rw [List.cons_append]
      -- An argument is read alike in both series. Only `--`, which is excluded, would make names of
      -- all that follows.
      cases waiting? with
      | some parameter =>
          rw [readAll] at h ⊢
          split at h
          · simp at h
          · rename_i hvalue
            obtain ⟨assigned, hassign, h⟩ := bind_eq_ok_iff.mp h
            rw [if_neg hvalue, bind_eq_ok_iff]
            exact ⟨assigned, hassign, ih hrest h⟩
      | none =>
          rw [readAll] at h ⊢
          split at h
          · rename_i hinspect
            rw [if_pos hinspect]
            exact ih hrest h
          · rename_i hinspect
            rw [if_neg hinspect]
            split at h
            · simp at h
            · rename_i hhelp
              rw [if_neg hne.symm] at h
              rw [if_neg hhelp, if_neg hne.symm]
              split at h
              · rw [bind_eq_ok_iff] at h ⊢
                obtain ⟨added, hadd, h⟩ := h
                exact ⟨added, hadd, ih hrest h⟩
              · rw [bind_eq_ok_iff] at h ⊢
                obtain ⟨read, hread, h⟩ := h
                exact ⟨read, hread, ih hrest h⟩

end DocBridge.Cli.Options
