import OlympusMetrics.Library.SlashPath
import OlympusMetrics.Publisher.DateArithmetic
import OlympusMetrics.Publisher.Publish

/-!
The keys of shards: which deployment, kind and month they name.
-/

namespace OlympusMetrics.Publisher

open SlashPath

/-! ### Parts of keys -/

theorem slashFree_path (kind : ArtifactKind) : SlashFree kind.path := by
  cases kind <;> decide

theorem path_injective {kind kind' : ArtifactKind} (h : kind.path = kind'.path) : kind = kind' := by
  cases kind <;> cases kind' <;> first | rfl | exact absurd h (by decide)

theorem DeploymentId.slashFree (deploymentId : DeploymentId) : SlashFree deploymentId.text := by
  intro hmem
  have hchar := List.all_eq_true.mp deploymentId.chars '/' hmem
  exact absurd hchar (by decide)

theorem DeploymentId.ext {deploymentId deploymentId' : DeploymentId}
    (h : deploymentId.text = deploymentId'.text) : deploymentId = deploymentId' := by
  cases deploymentId
  cases deploymentId'
  simp only at h
  subst h
  rfl

theorem slashFree_monthKey (month : ℕ) : SlashFree (monthKey month) := by
  unfold SlashFree
  rw [toList_monthKey]
  simp only [List.mem_append, List.mem_cons, not_or]
  refine ⟨fun h => ?_, by decide, fun h => ?_⟩
  · exact absurd (Calendar.isDigit_of_mem_padded h) (by decide)
  · exact absurd (Calendar.isDigit_of_mem_padded h) (by decide)

/-- The components of the key of a shard. -/
theorem dataKey_eq (deploymentId : DeploymentId) (kind : ArtifactKind) (month : String) :
    dataKey deploymentId kind month = join "v2" (join "deployments" (join deploymentId.text
      (join kind.path (join "daily" (month ++ ".json"))))) := by
  refine String.toList_injective ?_
  simp [dataKey, shardPrefix, deploymentPrefix, deploymentsPrefix, join]

theorem dataKey_inj {deploymentId deploymentId' : DeploymentId} {kind kind' : ArtifactKind}
    {month month' : String}
    (h : dataKey deploymentId kind month = dataKey deploymentId' kind' month') :
    deploymentId = deploymentId' ∧ kind = kind' ∧ month = month' := by
  rw [dataKey_eq, dataKey_eq] at h
  obtain ⟨-, h⟩ := join_inj_first (by decide) (by decide) h
  obtain ⟨-, h⟩ := join_inj_first (by decide) (by decide) h
  obtain ⟨hid, h⟩ := join_inj_first deploymentId.slashFree deploymentId'.slashFree h
  obtain ⟨hkind, h⟩ := join_inj_first (slashFree_path kind) (slashFree_path kind') h
  obtain ⟨-, h⟩ := join_inj_first (by decide) (by decide) h
  refine ⟨DeploymentId.ext hid, path_injective hkind, ?_⟩
  have hlist := congrArg String.toList h
  simp only [String.toList_append, List.append_cancel_right_eq] at hlist
  exact String.toList_injective hlist

/-! ### Prefixes -/

theorem startsWith_append (s t : String) : startsWith (s ++ t) s = true := by
  rw [startsWith, List.isPrefixOf_iff_prefix, String.toList_append]
  exact List.prefix_append _ _

theorem startsWith_trans {s t u : String} (h : startsWith s t = true) (h' : startsWith t u = true) :
    startsWith s u = true := by
  simp only [startsWith, List.isPrefixOf_iff_prefix] at h h' ⊢
  exact h'.trans h

theorem startsWith_deploymentPrefix (deploymentId : DeploymentId) :
    startsWith (deploymentPrefix deploymentId) deploymentsPrefix = true := by
  unfold deploymentPrefix
  rw [String.append_assoc]
  exact startsWith_append _ _

theorem dataKey_startsWith_shardPrefix (deploymentId : DeploymentId) (kind : ArtifactKind)
    (month : String) :
    startsWith (dataKey deploymentId kind month) (shardPrefix deploymentId kind) = true := by
  unfold dataKey
  rw [String.append_assoc]
  exact startsWith_append _ _

theorem startsWith_shardPrefix (deploymentId : DeploymentId) (kind : ArtifactKind) :
    startsWith (shardPrefix deploymentId kind) (deploymentPrefix deploymentId) = true := by
  unfold shardPrefix
  rw [String.append_assoc]
  exact startsWith_append _ _

theorem dataKey_startsWith_deploymentPrefix (deploymentId : DeploymentId) (kind : ArtifactKind)
    (month : String) :
    startsWith (dataKey deploymentId kind month) (deploymentPrefix deploymentId) = true :=
  startsWith_trans (dataKey_startsWith_shardPrefix deploymentId kind month)
    (startsWith_shardPrefix deploymentId kind)

/-- A key belongs to one deployment only. -/
theorem deployment_unique {key : String} {deploymentId deploymentId' : DeploymentId}
    (h : startsWith key (deploymentPrefix deploymentId) = true)
    (h' : startsWith key (deploymentPrefix deploymentId') = true) : deploymentId = deploymentId' := by
  simp only [startsWith, List.isPrefixOf_iff_prefix] at h h'
  obtain ⟨rest, hrest⟩ := h
  obtain ⟨rest', hrest'⟩ := h'
  rw [← hrest] at hrest'
  simp only [deploymentPrefix, String.toList_append, List.append_assoc,
    List.append_cancel_left_eq] at hrest'
  have hslash : "/".toList = ['/'] := by decide
  rw [hslash] at hrest'
  obtain ⟨htext, -⟩ := append_cons_inj_of_notMem_of_notMem deploymentId'.slashFree
    deploymentId.slashFree hrest'
  exact DeploymentId.ext (String.toList_injective htext.symm)

theorem startsWith_schemaKey {key : String} (h : key ∈ schemaKeys) :
    startsWith key deploymentsPrefix = false := by
  have hall : ∀ key ∈ schemaKeys, startsWith key deploymentsPrefix = false := by decide
  exact hall key h

theorem dataKey_startsWith_deploymentsPrefix (deploymentId : DeploymentId) (kind : ArtifactKind)
    (month : String) : startsWith (dataKey deploymentId kind month) deploymentsPrefix = true :=
  startsWith_trans (dataKey_startsWith_deploymentPrefix deploymentId kind month)
    (startsWith_deploymentPrefix deploymentId)

theorem dataKey_ne_manifestKey (deploymentId : DeploymentId) (kind : ArtifactKind) (month : String) :
    dataKey deploymentId kind month ≠ manifestKey := by
  intro h
  have hbelow := dataKey_startsWith_deploymentsPrefix deploymentId kind month
  rw [h] at hbelow
  exact absurd hbelow (by decide)

theorem dataKey_ne_lockKey (deploymentId : DeploymentId) (kind : ArtifactKind) (month : String) :
    dataKey deploymentId kind month ≠ publisherLockKey := by
  intro h
  have hbelow := dataKey_startsWith_deploymentsPrefix deploymentId kind month
  rw [h] at hbelow
  exact absurd hbelow (by decide)

/-! ### The month of a key -/

theorem splitOn_join {s t : String} (hs : SlashFree s) :
    (join s t).toList.splitOn '/' = s.toList :: t.toList.splitOn '/' := by
  rw [toList_join]
  exact List.splitOn_append_cons_self_of_not_mem hs _

theorem monthOfFile_monthKey {month : ℕ} (h : month < 120000) :
    monthOfFile (monthKey month ++ ".json").toList = some (monthKey month) := by
  obtain ⟨y1, y2, y3, y4, hyear⟩ := List.length_eq_four.mp
    (Calendar.length_padded (show 0 < 4 by decide) (show month / 12 < 10 ^ 4 by omega))
  obtain ⟨m1, m2, hmonth⟩ := List.length_eq_two.mp
    (Calendar.length_padded (show 0 < 2 by decide) (show month % 12 + 1 < 10 ^ 2 by omega))
  have hdigits : [y1, y2, y3, y4, m1, m2].all Char.isDigit = true := by
    have hy : ∀ c ∈ [y1, y2, y3, y4], c.isDigit = true :=
      fun c hc => Calendar.isDigit_of_mem_padded (hyear ▸ hc)
    have hm : ∀ c ∈ [m1, m2], c.isDigit = true :=
      fun c hc => Calendar.isDigit_of_mem_padded (hmonth ▸ hc)
    simp only [List.mem_cons, List.not_mem_nil, or_false, forall_eq_or_imp, forall_eq] at hy hm
    simp [hy, hm]
  have hkey : (monthKey month).toList = [y1, y2, y3, y4, '-', m1, m2] := by
    rw [toList_monthKey, hyear, hmonth]
    rfl
  have hfile : (monthKey month ++ ".json").toList =
      y1 :: y2 :: y3 :: y4 :: '-' :: m1 :: m2 :: ".json".toList := by
    rw [String.toList_append, hkey]
    rfl
  rw [hfile]
  simp only [monthOfFile, hdigits, and_self, if_true, ← hkey, String.ofList_toList]

/-- `dataArtifactMonth` reads the month that a key was made for. -/
theorem dataArtifactMonth_dataKey (deploymentId : DeploymentId) (kind : ArtifactKind) {month : ℕ}
    (h : month < 120000) :
    dataArtifactMonth (dataKey deploymentId kind (monthKey month)) = some (monthKey month) := by
  have hfile : SlashFree (monthKey month ++ ".json") := (slashFree_monthKey month).append (by decide)
  have hkind : isKindPath kind.path.toList = true := by
    cases kind <;> decide
  have hid : deploymentId.text.toList ≠ [] := by
    intro hnil
    exact deploymentId.nonempty (String.toList_injective hnil)
  have hsplit : (dataKey deploymentId kind (monthKey month)).toList.splitOn '/' =
      ["v2".toList, "deployments".toList, deploymentId.text.toList, kind.path.toList,
        "daily".toList, (monthKey month ++ ".json").toList] := by
    rw [dataKey_eq, splitOn_join (by decide), splitOn_join (by decide),
      splitOn_join deploymentId.slashFree, splitOn_join (slashFree_path kind),
      splitOn_join (by decide), List.splitOn_eq_singleton hfile]
  unfold dataArtifactMonth
  rw [hsplit]
  simp only [hid, hkind, ne_eq, not_false_eq_true, and_self, if_true, monthOfFile_monthKey h]

end OlympusMetrics.Publisher
