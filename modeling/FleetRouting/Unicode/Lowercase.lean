import FleetRouting.Unicode.Table
/-!
# FleetRouting.Unicode.Lowercase

**Small letters of every script.** `lowercase` puts a text in small letters. The small form of a letter does not depend
on its place, with one exception: a capital sigma at the end of a word has a form of its own. A word ends where no
letter with case follows, marks and signs within words left aside.
-/

namespace FleetRouting.Unicode

/-- The small forms of the characters that have one. -/
def smallForms : List Stretch := readTable [
  "iBZAjB jFWAnA BGAnY hBhOB BACjJ4H BEB COB ChMB BAAnf AEB DAAyT ACB BAAyU AAAsI BBAyW AAAsM CAAud AAAyZ AAAyb",
  "AAAsS BAAzA AAAzD BAAzJ AAAzI AAAsZ DAAzP AAAzS BAAzV AEB BAA0A AAAtI BAA0D CAAtN BAA0I AAAtQ BBA0K ACB BAA0S",
  "AAAtZ DAAtd HAAuG AAAuG BAAuJ AAAuJ BAAuM AQB CQB CAAvT ACB BAAsV AAAtf AhGB BAAse BQB HAArjF AAAxc BAAsa",
  "AAArjG CAAyC BAAsA AAA0J AAA0M AIB pBCB DAA7X IAA_T GAA9M BCA9N BAA-M BBA-N BQA9R BIA-D hDAA-X IWB FAA9Y CAA_Y",
  "BAA_S AAA_b CCA7b APAhiQ AfAhhQ hQhAB JhUB BAAhmP AMB CieB ChFAhrB i6JhFAroA BAArpH FAArpN 2SiPAhq7Q AFAk_Y",
  "ikTAAnkK GhKAkmQ CCAknd qAkUB JAAmf BieB JHAn4A IFAn4Q KHAn5A IHAn5Q IFAn6A LAAn6R BAAn6T BAAn6V BAAn6X IHAn7A",
  "YHAn8A IHAn8Q IHAn9A IBAn9Q ABAn7Q AAAn9T LDAn7S AAAn-D LBAn-Q ABAn7W MBAn_A ABAn7a AAAn_F LBAn7Y ABAn7c",
  "AAAn_T pJAA-J DAAjL AAAnF GAAoqO hNPAorQ TAAosE 5SZApmQ h5QhPArhQ hQAArjB BAAzL AAAnrd AAAzd CEB BAAyR AAAzR",
  "AAAyQ AAAyS BAArjT CAArjW IBAxf AjCB ICB EAArnT -qNhMB TaB kHMB DhcB KCB BAAnrZ AIB EAAhp8M BAAzF CCB DSB",
  "BAAzG AAAyc AAAzB AAAzM AAAzK BAA0e AAA0H AAA0d AAAhq6T AOB BAAhp8U AAA0C AAAnsO ACB BAAzE AOB BAAsb YAAhp_W",
  "15LZAh_6B hmFhHAihhI kIhDAihmY kcKAihsX BOAihtD BGAihtT BBAihtb h3KhSAijmA kdVAijrQ i5afAimmA 1sAfAi7zA",
  "iAYAi71b -yHhBAj6pC"]

/-- The characters that have case: capital, small and title forms. -/
def casedTable : List Stretch := readTable [
  "iBZ GZ hPA KA EA FW Be BmC BD EmP ChC HB eE jAA hKD CB CD BA GA BC BA BT BiS BkK IlF BhF JhI i4XhF BA FA ChK",
  "BD 1AiV CF ikCK FhK CC iAlf iAoV CF ChF CF CH BA BA BA Be ChU BG BA DC BG DD CF EM FC BG jUA NA QM jFA EA CJ",
  "BA DE GA BA BA BD BF EA CD FE EA Rf DB 5RhT h4WnE GD DB MhF BA FA -oShN Sd kEjF DD BiM UF BC 5VhK BN GiP z6AG",
  "ME hgJZ GZ hlFiP jAhD EhD jUK BO BG BB BK BO BG BB uDA CC BhJ BI hmFhS NhS idV KV i4ahf 1rAhf hAY CY 5pMiU BiG",
  "BB CA CB CD BL BA BG BiA BD CH BG Bb BD BE BA DG BqT CY BY Be BY Be BY Be BY Be BY BH h5UJ BT GF oFhd ikSiD",
  "h_MZ GZ GZ"]

/-- The characters that do not end a word: marks, and signs that stand within words. -/
def ignoredInCase : List Stretch := readTable [
  "hHA GA LA hDA BA iHA EA BA EA CB vXlf EB EA JB BA nbG mPA FA hRhM BA BB BB BA hMA LF KK BA hDA KU QA jFH BJ BD",
  "hBA BA ea ibK haK EA CA YX hLC hMA HB FI hJhZ hXA BA EH EA DG KB NA PA haA ED IA UB aA CB hZA EB EB CC DA eB",
  "DA LB hZA EE BB EA UB WF BA haA CA BD IA HB LB eA hdA MA hSA DA hXA BC FC BD HB LB dA haA CA GA FB UB cB hZB",
  "ED IA UB dA iIA HC BA iaA CG LI jCA CI JA BG iJB bA BA BA hXN BE BB FK BhD JA jGD BF BB CB ZB EC QD NA CB GA",
  "PA ieA zAC 9SC dB eB eB iAB BG IA CK DA FA hNE hTA iBB hCA jWC EB JA GC mbB CA haA BG BA BA CH GJ CA hHA IhN",
  "CL UD hQA BE BA FA hII MB hAD CB BC hYA BB DA BC haH CB iAF iSC BM BG EA GA DB hShe NA hCjE tdA BC LC NC NC NB",
  "ME IB KA CA CE hRE BJ BA NA QM hThA i8LB jRC jdA PA jAf hPA uVA hED DE FA idF idC 74WA hnCF oOA jCD BJ BA cD",
  "iQB OhB iOA XC jGD DB IA DA EA ZB FA kXB aR NA hGH ZK hOC hQA CD CB RA VB iCF CB CB MA IA hDA LA hTA BC CB FB",
  "BA bA OB FB BA jEE JC jZA CA EA z5QA kTQ xdP DA MP hCA CA lJA HA GA LA hDA BA hPA hNB iDA VC wBA nCA kVE hgFF",
  "BhJ BI yGC BB FD hIC EA lFB xdD hGA aE BA pbB YA hUF iGK hRD jbA hWO hJA CB KC hRD CB CA EA KA hSC hEE BH heA",
  "MB hUI KD CA ifC CA BB GA CA kdA DH VB hZB DA hFG DE iGF NA BA BA OB iVH CC BA XA iUF BA EB BB nOD GB BB bB",
  "iVH CA BB jKA BA CF BA jFA BA CD BE oDI BB oAB BA EA kQD CB EA hAJ hIF CD IA JF CC hOM BB mGA BC BA mJG BF BA",
  "iSV CG BB BB jaF DA BB BG BA iIB DA BA iBA oZB LB hUE FA BA XA lmVQ GO rmIL DC iuAE hbG JD vcC hIB vCA hfQ iAB",
  "BB NB v_cD BG BB jkeB BD kychN CW xAC JP CG eD kUC h9bhW EhR IA OA WE BO hqQG BQ CG BB BE Fhd hBA lAN rQA hdD",
  "vbE neB nTA CA HB FA JA uQG jNH i1PE 4jgBA eif kAnP"]

/-- The small form of a character, wherever it stands. -/
def smallForm (c : Char) : List Char :=
  match stretch? smallForms c with
  | some s => s.image c
  | none => [c]

/-- Whether the next character that counts has case. -/
def meetsCase (cs : List Char) : Bool :=
  match cs.dropWhile (lists ignoredInCase) with
  | c :: _ => lists casedTable c
  | [] => false

/-- The characters `cs` in small letters, behind the characters `before`, the last one first. -/
def lowercaseFrom (before : List Char) : List Char → List Char
  | [] => []
  | c :: rest =>
    let small :=
      if c = '\u03a3' ∧ meetsCase before ∧ !meetsCase rest then ['\u03c2'] else smallForm c
    small ++ lowercaseFrom (c :: before) rest

/-- The text in small letters. -/
def lowercase (s : String) : String := String.ofList (lowercaseFrom [] s.toList)

end FleetRouting.Unicode
