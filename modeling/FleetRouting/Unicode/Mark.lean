import FleetRouting.Unicode.Table
/-!
# FleetRouting.Unicode.Mark

**Marks, and how they combine.** A mark belongs to the character in front of it. Marks of different combining classes
do not touch each other, so their order does not matter; the class of a character that starts anew is zero.
-/

namespace FleetRouting.Unicode

/-- The marks. -/
def marks : List Stretch := readTable [
  "4AjP oTG oHhM BA BB BB BA iIK hQU QA jFG CF CB BD hDA ea ibK haI JA YD BI BC BE hLC hbI hKX BhA hWC BR BG KB",
  "dC hYA BG CB CC JA KB aA CC hYA BE EB CC DA eB DA LC hYA BH BC BC UB WF BC hYA BG CB CC HC KB eA hbE DC BD JA",
  "hIE hXA BG BC BD HB LB dC hYA BG BC BD HB LB PA MD hXB BG BC BD JA KB dC iGA EF BA BH SB hdA CG MH jCA CI LG",
  "iJB bA BA BA EB hRT BB FK BhD JA jET XD EC BC CG DD NL BA KD 1fC 9SD cC dB eB iAf JA hNC BA jVB hCA jWL EL mbE",
  "hZJ Bc CA hQhN CL UE hPQ hGI MC eM hYN hQT kYC BU EA GA CC mGhf 2QhA i_eC kNA jAf xKF jJB 9uUD BJ hAB iQB oQA",
  "DA EA XE EA iTB hSR aR NA hGH ZM hMD hPN hEA iDN MA IB hNC hSA BC CB FB BA hJE FB nMH BB z5QA 3BP QP -NA nCA",
  "kVE h0GC BB FD hIC EA lFB xdD iBE pdB iNF iGK hRD jaC hVO hJA CB KD hNK HA hdC hEN QB hMA MC hQN ID BB icL GA",
  "CA kdL VD hXB BG CB CC JA KB CG DE iDI BA CA BD BE BA OB iSR XA iRT nLG CI bB iSQ jKM jFO oAO nVF BB CD BA BB",
  "kNG CG DA cJ hIG BD IA JK hOP mGH mHH BH iSV BN jaF DA BB BG BA iCE BB BE qbD JB BA hQG DE XA lnFA GO rmIR",
  "iuAE hbG hgYA BhW HD iRA LB zlLB kzBhN CW weE DF IH CG eD kUC h9bhW EhR IA OA WE BO hqQG BQ CG BB BE jEA lAG",
  "rXA hdD vcD neB nTA CA HB FA uaG jNG 4l9VnP"]

/-- The combining classes that are not zero. -/
def combiningClasses : List Stretch := readTable [
  "4AUnG AAnI ADmc AAnI AAmY AEmc ABmK ADmc ABmK AKmc AEB ADmc AHnG AAnQ AAnG ACmc ACnG ABmc BCnG ADmc AAnG AAnI",
  "ABmc AAnG AAnJ ABnK AAnJ ABnK AAnJ AMnG oTEnG oJAmc ADnG AAmc ACnG AAme AAmc AFnG AFmc ABnG AAmc ABnG AAme",
  "AAnE AAnG AAK AAL AAM AAN AAO AAP AAQ AAR AAS ABT AAU AAV AAW BAX BAY AAZ BAnG AAmc BAS iIHnG AAe AAf AAhA",
  "hQAb AAc AAd AAe AAf AAhA AAhB AAhC ABnG ABmc AEnG AAmc ABnG AAmc QAhD jFGnG CDnG AAmc AAnG CBnG BAmc ABnG",
  "AAmc hDAhE eAnG AAmc ABnG AAmc ABnG ACmc AAnG ABmc AAnG AAmc ACnG AAmc AAnG AAmc AAnG AAmc AAnG AAmc ABnG",
  "lAGnG AAmc AAnG JAmc YDnG BInG BCnG BEnG hLCmc hbBnG ACmc ADnG hKEnG AEmc ANnG BAmc ABnG AAmc ABnG AAmc ACnG",
  "ACmc AAb AAc AAd ACnG AAmc ABnG ABmc AEnG hcAH QAJ DAnG AAmc ABnG jHAH QAJ hQAnG hdAH QAJ jOAH QAJ jOAH QAJ",
  "jfAJ jOAH QAJ HAiU AAib jFAH QAJ jNBJ QAJ jcAJ jNBjH AAJ NDjL jMBjW AAJ NDja iMBmc bAmc BAmc BAmY hXAkB AAkC",
  "BAkE FDkC CAkC BBnG AAJ BBnG heAmc jQAH BBJ iSAmc 2PCnG 9UBJ eAJ kdAJ KAnG mLAnE kPAme AAnG AAmc mbAnG AAmc",
  "iHAJ UHnG CAmc hQEnG AFmc ABnG AAmc BBmc ABnG ABmc AEnG AAmc ARnG AAmc CFnG AAmc ADnG AAnK iIAH PAJ hGAnG AAmc",
  "AGnG hWBJ haAH LBJ iDAH kYCnG BAB AEmc ABnG ADmc AAnG BGB EAmc GAnG DBnG mGBnG AAmc AGnG AAmc ABnG AAnK AAmW",
  "AAmc AAmK AhEnG AAnI ABnE AAmc AAma AAnG AAnJ AAmc AAnG AAmc 2QBnG ABB ADnG ACB ABnG EAnG DBB AAnG AAmc AAnG",
  "ABB ADmc AAnG i_eCnG kNAJ jAfnG xKAma AAnE AAnI AAme ABnA jJBI 9uUAnG EJnG hABnG iQBnG oUAJ hFAJ kXAJ bRnG",
  "hZCmc hFAJ ifAH MAJ nPAnG BBnG AAmc CBnG FBnG BAnG hUAJ nWAJ z5QAa 4BGnG AGmc ABnG -NAmc nCAmc kVEnG h0SAmc",
  "BAnG hIAnG AAB AAmc EAJ lFAnG AAmc xdDnG iBEnG pdBnG iNBmc BCmc iGBmc ACnG AAmc AAnG ADmc hRAnG AAmc AAnG AAmc",
  "mAAJ hJAJ OAJ hZAJ AAH iFCnG hQBJ heAH iMAJ JAH jKAJ AAH lSAH AAJ iQBH QAJ YGnG DEnG iZCJ jRAJ DAH XAnG jDAJ",
  "AAH nbAJ AAH jeAJ jWAJ AAH jTAJ oNAJ AAH oCBJ EAH kcAJ iTAJ SAJ iRAJ tFAJ oCAH BBJ iRAJ tJBJ wvMAJ iuAEB hbGnG",
  "hlZBG zlMAB lmGBmY ACB DAnC AEmY IHmc CEnG ABmc eDnG kUCnG jtbGnG BQnG CGnG BBnG BEnG jEAnG lAGnG rXAnG hdDnG",
  "vcBnI AAmc AAnG neAnG AAmc nTAnG CAnG HBnG FAnG uaGmc jNFnG AAH"]

/-- Whether a character is a mark. -/
def isMark (c : Char) : Bool := lists marks c

/-- The combining class of a character. -/
def combiningClass (c : Char) : Nat := (number? combiningClasses c).getD 0

/-- The combining class of the signs that take the vowel from a letter. -/
def viramaClass : Nat := 9

/-- Whether a sign takes the vowel from the letter in front of it. -/
def isVirama (c : Char) : Bool := combiningClass c == viramaClass

end FleetRouting.Unicode
