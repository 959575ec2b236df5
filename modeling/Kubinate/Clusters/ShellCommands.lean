import Kubinate.Clusters.Provisioning
import Kubinate.Library.Shell

/-!
# Commands on the servers

`ssh_install_k3s_server` and `ssh_install_k3s_agent` of `crates/workflows/src/activities.rs` build
their commands from texts that come from elsewhere, one of them from another server. `shell_escape`
puts each between single quotes, with a quoted quote for every quote in it.

* `run_shellEscape`: the reader of shell words reads an escaped text as one quoted word.
* `shell_escape_one_word`: so the commands have the arguments that they are meant to have.
-/

namespace Kubinate.Clusters

open Platform Library

/-! ## Replacing a character -/

/-- A pattern of one character is replaced wherever it stands. -/
theorem replaceChars_singleton (pattern : Char) (new : List Char) (text : List Char) {fuel : Nat}
    (h : text.length ≤ fuel) :
    replaceChars [pattern] new fuel text = replaceChar text pattern new := by
  induction text generalizing fuel with
  | nil => cases fuel <;> rfl
  | cons c text ih =>
    cases fuel with
    | zero => cases h
    | succ fuel =>
      have hrest := ih (Nat.le_of_succ_le_succ h)
      have hprefix : [pattern].isPrefixOf (c :: text) = (pattern == c) := by
        rw [List.isPrefixOf_cons_cons, List.isPrefixOf_nil_left, Bool.and_true]
      rw [replaceChars, hprefix, replaceChar, List.flatMap_cons]
      by_cases hc : c = pattern
      · subst hc
        rw [beq_self_eq_true, if_pos rfl, if_pos rfl]
        exact congrArg (new ++ ·) hrest
      · rw [beq_false_of_ne (Ne.symm hc), if_neg Bool.false_ne_true, if_neg hc]
        exact congrArg (c :: ·) hrest

theorem toList_shellEscape (value : String) : (shellEscape value).toList =
    '\'' :: (replaceChar value.toList '\'' ['\'', '\\', '\'', '\''] ++ ['\'']) := by
  have hreplace : (replace value "'" "'\\''").toList =
      replaceChar value.toList '\'' ['\'', '\\', '\'', '\''] :=
    String.toList_ofList.trans (replaceChars_singleton '\'' _ value.toList le_rfl)
  rw [shellEscape, String.toList_append, String.toList_append, hreplace]
  rfl

/-! ## Reading an escaped text -/

/-- A word all of whose characters are quoted. -/
def quotedWord (value : List Char) : Shell.Word := value.map fun c => (c, true)

theorem run_single (ws : List Shell.Word) (w : Shell.Word) (value rest : List Char) :
    Shell.run (.single ws w) (replaceChar value '\'' ['\'', '\\', '\'', '\''] ++ rest) =
      Shell.run (.single ws (w ++ quotedWord value)) rest := by
  induction value generalizing w with
  | nil =>
    rw [quotedWord, List.map_nil, List.append_nil]
    rfl
  | cons c value ih =>
    have hword : w ++ quotedWord (c :: value) = (w ++ [(c, true)]) ++ quotedWord value := by
      rw [List.append_assoc]
      rfl
    rw [hword, ← ih, replaceChar, List.flatMap_cons, List.append_assoc]
    by_cases hc : c = '\''
    · -- out of the quotes, a quote behind a backslash, and back into quotes
      subst hc
      rfl
    · rw [if_neg hc]
      exact congrArg (Option.bind · _) (if_neg hc)

/-- An escaped text is read as one word. -/
theorem run_shellEscape (ws : List Shell.Word) (value : String) :
    Shell.run (.between ws) (shellEscape value).toList =
      some (.unquoted ws (quotedWord value.toList)) := by
  rw [toList_shellEscape]
  exact (run_single ws [] value.toList ['\'']).trans rfl

theorem run_shellEscape_blank (ws : List Shell.Word) (value : String) :
    Shell.run (.between ws) ((shellEscape value).toList ++ [' ']) =
      some (.between (ws ++ [quotedWord value.toList])) :=
  (Shell.run_append (run_shellEscape ws value) [' ']).trans rfl

theorem value_quotedWord (value : String) : (quotedWord value.toList).value = value := by
  rw [Shell.Word.value, quotedWord, List.map_map]
  exact (congrArg String.ofList (List.map_id value.toList)).trans String.ofList_toList

/-- An escaped text alone. -/
theorem words_shellEscape (value : String) :
    Shell.words (shellEscape value).toList = some [quotedWord value.toList] := by
  rw [Shell.words, run_shellEscape]
  rfl

/-- An escaped text before a blank and more words. -/
theorem words_shellEscape_cons (value : String) (rest : List Char) :
    Shell.words ((shellEscape value).toList ++ ' ' :: rest) =
      (Shell.words rest).map (quotedWord value.toList :: ·) := by
  have hword := Shell.words_append_word (run_shellEscape_blank [] value) rest
  rw [List.append_assoc] at hword
  exact hword

/-! ## The commands -/

/-- A word without quotes. -/
def plainWord (value : String) : Shell.Word := value.toList.map fun c => (c, false)

theorem value_plainWord (value : String) : (plainWord value).value = value := by
  rw [Shell.Word.value, plainWord, List.map_map]
  exact (congrArg String.ofList (List.map_id value.toList)).trans String.ofList_toList

theorem argv_of_words {command name : String} {plain : List String} {ws : List Shell.Word}
    (hwords : Shell.words command.toList = some ((name :: plain).map plainWord ++ ws))
    (hname : (plainWord name).isCommandName = true) :
    Shell.argv command = some (name :: plain ++ ws.map Shell.Word.value) := by
  have hvalues : (plain.map plainWord).map Shell.Word.value = plain := by
    rw [List.map_map]
    exact (List.map_congr_left fun value _ => value_plainWord value).trans (List.map_id plain)
  rw [List.map_cons, List.cons_append] at hwords
  rw [Shell.argv, hwords]
  simp only [hname, if_true]
  rw [List.map_cons, List.map_append, value_plainWord, hvalues, List.cons_append]

theorem isCommandName_k3sup : (plainWord "k3sup").isCommandName = true := by decide +kernel

section Pieces

variable {text : String} {plain : List String}

/-- Words without quotes, and after them an escaped text. -/
theorem words_plain_shellEscape
    (h : Shell.run (.between []) text.toList = some (.between (plain.map plainWord)))
    (value : String) :
    Shell.words (text ++ shellEscape value).toList =
      some (plain.map plainWord ++ [quotedWord value.toList]) := by
  rw [String.toList_append, Shell.words_append_word h, words_shellEscape]
  rfl

/-- The same before more of the command. -/
theorem words_plain_shellEscape_cons
    (h : Shell.run (.between []) text.toList = some (.between (plain.map plainWord)))
    (value : String) {rest : String} {ws : List Shell.Word}
    (hrest : Shell.words rest.toList = some ws) :
    Shell.words (text ++ shellEscape value ++ (" " ++ rest)).toList =
      some (plain.map plainWord ++ quotedWord value.toList :: ws) := by
  have hblank : (" " ++ rest).toList = ' ' :: rest.toList := String.toList_append
  rw [String.toList_append, String.toList_append, hblank, List.append_assoc,
    Shell.words_append_word h, words_shellEscape_cons, hrest]
  rfl

end Pieces

theorem argv_installCommand (version : String) : Shell.argv (installCommand version) =
    some ["k3sup", "install", "--local", "--k3s-version", version] := by
  have hplain : Shell.run (.between []) "k3sup install --local --k3s-version ".toList =
      some (.between (["k3sup", "install", "--local", "--k3s-version"].map plainWord)) := by
    decide +kernel
  have hwords := words_plain_shellEscape hplain version
  have hargv : Shell.argv (installCommand version) =
      some ("k3sup" :: ["install", "--local", "--k3s-version"] ++
        [quotedWord version.toList].map Shell.Word.value) :=
    argv_of_words hwords isCommandName_k3sup
  rw [hargv, List.map_singleton, value_quotedWord]
  rfl

theorem argv_joinCommand (controlPlaneIp joinToken version : String) :
    Shell.argv (joinCommand controlPlaneIp joinToken version) =
      some ["k3sup", "join", "--server-ip", controlPlaneIp, "--k3s-version", version, "--token",
        joinToken] := by
  have hip : Shell.run (.between []) "k3sup join --server-ip ".toList =
      some (.between (["k3sup", "join", "--server-ip"].map plainWord)) := by
    decide +kernel
  have hversion : Shell.run (.between []) "--k3s-version ".toList =
      some (.between (["--k3s-version"].map plainWord)) := by
    decide +kernel
  have htoken : Shell.run (.between []) "--token ".toList =
      some (.between (["--token"].map plainWord)) := by
    decide +kernel
  have hpieces : joinCommand controlPlaneIp joinToken version =
      "k3sup join --server-ip " ++ shellEscape controlPlaneIp ++ (" " ++ ("--k3s-version " ++
        shellEscape version ++ (" " ++ ("--token " ++ shellEscape joinToken)))) := by
    have hk3s : " --k3s-version " = " " ++ "--k3s-version " := rfl
    have htok : " --token " = " " ++ "--token " := rfl
    unfold joinCommand
    -- what is escaped does not matter here
    generalize shellEscape controlPlaneIp = ip, shellEscape version = ver,
      shellEscape joinToken = tok
    rw [hk3s, htok]
    simp only [String.append_assoc]
  have hwords := words_plain_shellEscape_cons hip controlPlaneIp
    (words_plain_shellEscape_cons hversion version (words_plain_shellEscape htoken joinToken))
  have hargv : Shell.argv (joinCommand controlPlaneIp joinToken version) =
      some ("k3sup" :: ["join", "--server-ip"] ++
        (quotedWord controlPlaneIp.toList :: (["--k3s-version"].map plainWord ++
          quotedWord version.toList :: (["--token"].map plainWord ++
            [quotedWord joinToken.toList]))).map Shell.Word.value) := by
    rw [hpieces]
    exact argv_of_words hwords isCommandName_k3sup
  rw [hargv]
  simp only [List.map_cons, List.map_append, List.map_nil, value_quotedWord, value_plainWord]
  rfl

theorem argv_joinTokenCommand : Shell.argv joinTokenCommand =
    some ["sudo", "cat", "/var/lib/rancher/k3s/server/node-token"] := by
  decide +kernel

/-- An escaped text is one word with the text for its value, alone and before a blank and more
words. So the commands that install k3s on a server are simple commands with the arguments they
are meant to have, and they are all that is run there. -/
theorem shell_escape_one_word :
    (∀ value : String,
      Shell.words (shellEscape value).toList = some [quotedWord value.toList] ∧
      (quotedWord value.toList).value = value ∧
      ∀ rest : List Char, Shell.words ((shellEscape value).toList ++ ' ' :: rest) =
        (Shell.words rest).map (quotedWord value.toList :: ·)) ∧
    (∀ (target : SshTarget) (version : String), ∃ command next,
      (sshInstallK3sServer target version).run = .call (.sshRun target command) next ∧
      Shell.argv command = some ["k3sup", "install", "--local", "--k3s-version", version] ∧
      (∀ r, Makes (I := cloud) (· = .sshRun target joinTokenCommand) (next r)) ∧
      Shell.argv joinTokenCommand =
        some ["sudo", "cat", "/var/lib/rancher/k3s/server/node-token"]) ∧
    ∀ (worker : SshTarget) (cp token version : String), ∃ command next,
      (sshInstallK3sAgent worker cp token version).run = .call (.sshRun worker command) next ∧
      Shell.argv command =
        some ["k3sup", "join", "--server-ip", cp, "--k3s-version", version, "--token", token] ∧
      ∀ r, ∃ a, next r = .done a := by
  refine ⟨fun value => ?_, fun target version => ?_, fun worker cp token version => ?_⟩
  · exact ⟨words_shellEscape value, value_quotedWord value, words_shellEscape_cons value⟩
  · refine ⟨installCommand version, _, rfl, argv_installCommand version, ?_, argv_joinTokenCommand⟩
    rintro (e | output)
    · trivial
    · refine ⟨rfl, ?_⟩
      rintro (e | token) <;> trivial
  · refine ⟨joinCommand cp token version, _, rfl, argv_joinCommand cp token version, ?_⟩
    rintro (e | output)
    · exact ⟨_, rfl⟩
    · exact ⟨_, rfl⟩

end Kubinate.Clusters
