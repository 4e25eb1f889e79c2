import FleetRouting.Unicode.Table
/-!
# FleetRouting.Domain.Mapping

**The characters of domain names.** Before a name is looked at, its characters are mapped: capital letters to small
ones, forms for compatibility to the plain characters, and some characters to nothing. Some may not stand in a name at
all. The mapping of Unicode for the processing of domain names is used, without the rules that keep names to letters,
digits and hyphens.
-/

namespace FleetRouting.Domain

open Unicode

/-- What characters are mapped to. -/
def images : List Stretch := readTable [
  "iBZAjB iFAAhA HAChA4I BAAjB EAChA4E CBAhS AAChA4B AAA9c CAChA5H AAAhR AAAjP BAChRoiEhU AAChRoiEhS AAChToiEhU",
  "BWAnA BGAnY hBhOB BACjJ4H BACjJjK AACjJjK ACB CEB BACjMlX AACjMlX AGB BAC1cjO AhMB BAAnf AEB BAAjT BAAyT ACB",
  "BAAyU AAAsI BBAyW AAAsM CAAud AAAyZ AAAyb AAAsS BAAzA AAAzD BAAzJ AAAzI AAAsZ DAAzP AAAzS BAAzV AEB BAA0A",
  "AAAtI BAA0D CAAtN BAA0I AAAtQ BBA0K ACB BAA0S AAAtZ DAAtd HACjEre AACjEre AACjEre AACjMjK AACjMjK AACjMjK",
  "AACjOjK AACjOjK AACjOjK AOB CQB CACjEja AACjEja AACjEja AAAvV BAAsV AAAtf AhGB BAAse BQB HAArjF AAAxc BAAsa",
  "AAArjG CAAyC BAAsA AAA0J AAA0M AIB jBAAjI AAAzG AAAjK AAAjS AAAzZ AAAzb AAA0B AAAjX AAAjZ fAChA4G AAChA4H",
  "AAChA4K AAChA5I AAChA4D AAChA4L CAAzD AAAjM AAAjT AAAjY AAA0V ibBA4A BAA4T AAC4I4B AAA9Z hKCB BAA1Z BAA7X",
  "DAChA9Z DAAhb AAA_T EAChA4B AAChA4I4B AAA9M AAAlX ACA9N BAA-M BBA-N BQA9R BIA-D hDAA-X AAA9S AAA9Y AAA-F AAA-N",
  "AAA-L AAA-G AAA-A BWB BAA9a AAA-B AAA-D BAA9Y AAA9V BAA_Y BAA-D AAA_b CCA7b APAhiQ AfAhhQ hQhAB JhUB BAAhmP",
  "AMB CieB ChFAhrB hQAChrFhsC nNAChxHhzU AAChyIhzU AACh2HhzU AAChyKhzU 2fACioVipc AACioWipc AACioXipc AACiocipc",
  "AACipBipc AACipCipc AACipLipc AACipPipc jcACitBitc AACitCitc BACitPitc iTACixSixc CACixYixc hCACiwWixc",
  "AACiwXixc AACiwcixc CACixLixc ndACi5Bi5c AACi5Ci5c 2VACjyNjxS jfACj2Nj1S hIACj1Lj0Z AACj1Lj1B hOAAj4L",
  "hWACj6Cj9X JACj6Mj9X EACj6Rj9X EACj6Wj9X EACj6bj9X MACj6Aj9V JACj7Rj7S BACj7Rj7U AACj9Sj8A AACj9Sj7Rj8A",
  "AACj9Tj8A AACj9Tj7Rj8A HACj7Rj8A RACj8Sj9X JACj8cj9X EACj9Bj9X EACj9Gj9X EACj9Lj9X MACj8Qj9V nGhFAroA BAArpH",
  "FAArpN hOAAkmc 3bFAk_Q ikCAAhhS AAAhhU AAAhhe ABAhiB AAAhiC AAAhiK AAAhjD AAAhpyL AAAnkK GhKAkmQ CCAknd jMAAjB",
  "AAAnG AAAjC BBAjE AAAud AHAjH BAAjP AAAxD AAAjQ AAAjS ABAjU AAAjX AAAjB ABAyQ AAAnoC AAAjC ABAjE AAAyZ ABAyb",
  "AAAjH BAAjL AAAjN AAAqL AAAjP AAAyU ABAnoW AAAjQ ABAjU AAAnod AAAzP AAAjW AAAnpF ACA9S ABA-G AAAjJ AAAjS ABAjV",
  "ABA9S AAA-B ABA-G NAAhhd hCAAyS AAAjD AAAyV AAAnQ AAAyc AAAjG AAAyf AAAzB AAAzF ACAzI AAAnrb AAA0d AAAzN",
  "AAAnsF AAA0f AAAzR AAAzQ ADAzS AAAzY ABA0C AAAtL ABA0J AAAnoc ABA0L AAAja ACA0Q AAA9Y iAkUB FACjB1e AAAnzB",
  "CAAmf BieB JHAn4A IFAn4Q KHAn5A IHAn5Q IFAn6A LAAn6R BAAn6T BAAn6V BAAn6X IHAn7A BAA9M BAA9N BAA9O BAA9P BAA-M",
  "BAA-N BAA-O CACn4A9Z AACn4B9Z AACn4C9Z AACn4D9Z AACn4E9Z AACn4F9Z AACn4G9Z AACn4H9Z AACn4A9Z AACn4B9Z AACn4C9Z",
  "AACn4D9Z AACn4E9Z AACn4F9Z AACn4G9Z AACn4H9Z AACn5A9Z AACn5B9Z AACn5C9Z AACn5D9Z AACn5E9Z AACn5F9Z AACn5G9Z",
  "AACn5H9Z AACn5A9Z AACn5B9Z AACn5C9Z AACn5D9Z AACn5E9Z AACn5F9Z AACn5G9Z AACn5H9Z AACn7A9Z AACn7B9Z AACn7C9Z",
  "AACn7D9Z AACn7E9Z AACn7F9Z AACn7G9Z AACn7H9Z AACn7A9Z AACn7B9Z AACn7C9Z AACn7D9Z AACn7E9Z AACn7F9Z AACn7G9Z",
  "AACn7H9Z CACn7Q9Z AAC9R9Z AAC9M9Z CACn9W9Z ABAn9Q AAAn7Q AAA9M AAC9R9Z AAChA4T AAA9Z AAChA4T AAChA6C AAChA4I6C",
  "AACn7U9Z AAC9X9Z AAC9O9Z CACn-G9Z AAAn7S AAA9N AAAn7U AAA9O AAC9X9Z AAChA4T4A AAChA4T4B AAChA4T6C DAA8Q EBAn-Q",
  "AAAn7W AAA9P BAChA4U4A AAChA4U4B AAChA4U6C DAA9Q EBAn_A AAAn7a AAA-N AAAn_F AAChA4I4A AAChA4I4B AAAjA CACn7c9Z",
  "AAC-J9Z AAC-O9Z CACn_W9Z AAAn7Y AAA-M AAAn7c AAA-O AAC-J9Z AAChA4B AAChA4U BAAhA AAAhA AAAhA AAAhA AAAhA AAAhA",
  "AAAhA AAAhA AAAhA AAAhA AAAhA GAAogQ FAChA5T XAAhA DACohSohS AACohSohSohS BACohVohV AACohVohVohV EAChBhB",
  "BAChA4F IAChfhf AAChfhB AAChBhf NACohSohSohSohS HAAhA QAAhQ AAAjJ CFAhU AAAhL AAAowS AAAhd ABAhI AAAjO AJAhQ",
  "AAAhL AAAowS AAAhd ABAhI BAAjB AAAjF AAAjP AAAjY AAAyZ AAAjI ADAjL AAAjQ ABAjT LACjSjT iXACjBhPjD AACjBhPjT",
  "AAAjD AAClQjD BACjDhPjP AACjDhPjV AAAyb BAClQjG ABAjH AAAjI AAAjI AAAjI AAApH AAAjJ AAAjJ AAAjM AAAjM BAAjO",
  "AACjOjP CCAjQ AAAjS AAAjS CACjTjN AACjUjFjM AACjUjN BAAja BAA-J BAAja BAAjL AAAnF ABAjC BAAjF ABAjF AAAoqO",
  "AAAjN AAAjP ADAhuQ AAAjJ BACjGjBjY AAA-A AAA9T AAA9T AAA-A AAAowR EAAjE ABAjE ABAjJ GAChRoiEhX AAChRoiEhZ",
  "AAChRoiEhRhQ AAChRoiEhT AAChSoiEhT AAChRoiEhV AAChSoiEhV AAChToiEhV AAChUoiEhV AAChRoiEhW AAChVoiEhW",
  "AAChRoiEhY AAChToiEhY AAChVoiEhY AAChXoiEhY AAChRoiE AAAjJ AACjJjJ AACjJjJjJ AACjJjW AAAjW AACjWjJ AACjWjJjJ",
  "AACjWjJjJjJ AACjJjY AAAjY AACjYjJ AACjYjJjJ AAAjM ABAjD AAAjN AAAjJ AACjJjJ AACjJjJjJ AACjJjW AAAjW AACjWjJ",
  "AACjWjJjJ AACjWjJjJjJ AACjJjY AAAjY AACjYjJ AACjYjJjJ AAAjM ABAjD AAAjN DAAosE FAChQoiEhT lCACoxLoxL",
  "AACoxLoxLoxL BACoxOoxO AACoxOoxOoxO nYBAsgI pVIAhR AAChRhQ AAChRhR AAChRhS AAChRhT AAChRhU AAChRhV AAChRhW",
  "AAChRhX AAChRhY AAChRhZ AAChShQ AAChIhRhJ AAChIhShJ AAChIhThJ AAChIhUhJ AAChIhVhJ AAChIhWhJ AAChIhXhJ",
  "AAChIhYhJ AAChIhZhJ AAChIhRhQhJ AAChIhRhRhJ AAChIhRhShJ AAChIhRhThJ AAChIhRhUhJ AAChIhRhVhJ AAChIhRhWhJ",
  "AAChIhRhXhJ AAChIhRhYhJ AAChIhRhZhJ AAChIhShQhJ UAChIjBhJ AAChIjChJ AAChIjDhJ AAChIjEhJ AAChIjFhJ AAChIjGhJ",
  "AAChIjHhJ AAChIjIhJ AAChIjJhJ AAChIjKhJ AAChIjLhJ AAChIjMhJ AAChIjNhJ AAChIjOhJ AAChIjPhJ AAChIjQhJ AAChIjRhJ",
  "AAChIjShJ AAChIjThJ AAChIjUhJ AAChIjVhJ AAChIjWhJ AAChIjXhJ AAChIjYhJ AAChIjZhJ AAChIjahJ AZAjB AZAjB AAAhQ",
  "hpBACoxLoxLoxLoxL jHAChahahd AAChdhd AAChdhdhd jFACq2d5Y pDhPArhQ hQAArjB BAAzL AAAnrd AAAzd CEB BAAyR AAAzR",
  "AAAyQ AAAyS BAArjT CAArjW GAAjK AAAjW ABAxf AjCB ICB EAArnT jcAArrB pPAA6-N iTAAhn8f MAAzwA AAAzxI AAAzxW",
  "AAAzxf AAAzyZ AAAz0F AAAz0M AAAz1A AAAz1a AAA0pf AAA0rF AAA0rL AAA0sC AAA0sW AAA0tL AAA0vA AAA0vV AAA0wA",
  "AAA00b AAA03Z AAA04V AAA04a AAA05Y AAA06B AAA06c AAA07J AAA08C AAA09W AAA0-I AAA0_D AAA12X AAA14f AAA2nL",
  "AAA2oC AAA2oK AAA2oV AAA2pH AAA2rT AAA26Q AAA28A AAA2_Y AAA3gP AAA3hC AAA3hY AAA3jO AAA3jR AAA3ub AAA3vF",
  "AAA3vR AAA3ve AAA3zS AAA3za AAA3zf AAA33U AAA33e AAA34L AAA34T AAA36Q AAA37B AAA37T AAA3-D AAA4wI AAA4xW",
  "AAA4yL AAA5pP AAA5pU AAA5sH AAA5sX AAA5tE AAA5tZ AAA5vA AAA5vF AAA53Q AAA54I AAA55I AAA65A AAA67C AAA67Z",
  "AAA69T AAA6-L AAA6-U AAA6-b AAA7gP AAA7gU AAA7hU AAA8jL AAA8xK AAA8xW AAA8xb AAA8xf AAA8yH AAA8yZ AAA8yb",
  "AAA81M AAA88E AAA88J AAA9mc AAA9nG AAA9oY AAA9of AAA9pI AAA9pQ AAA9sL AAA9sS AAA9zW AAA9zd AAA91O AAA91f",
  "AAA93O AAA9-b AAA9_C AAA9_T AAA-pa AAA-tY AAA-te AAA-zU AAA-2L AAA-3Z AAA_jT AAA_nY AAA_5W AAA_6R AAA_8K",
  "AAA_9d AAAhggB AAAhggM AAAhggS AAAhghT AAAhgjf AAAhgkJ AAAhgvD AAAhgvK AAAhgvT AAAhgvc AAAhgwM AAAhgwb AAAhgwf",
  "AAAhgzO AAAhgzS AAAhgzY AAAhhyN AAAhhzL AAAhiiA AAAhiiM AAAhijD AAAhire AAAhisL AAAhiuS AAAhiwA AAAhjhX",
  "AAAhjiG AAAhjiV AAAhjjY AAAhjkd AAAhjrE AAAhjrQ AAAhjtT AAAhj1L AAAhj2K AAAhj8b AAAhj9Q AAAhj9V AAAhkkR",
  "AAAhkqJ AAAhkuG AAAhkuM AAAhkuR AAAhlrX AAAhlsA AAAhlwc AAAhl1W AAAhl1Z AAAhl3I AAAhl6R AAAhl6e AAAhl7C",
  "AAAhl7J AAAhl-L AAAhl_N AAAhl_T AAAhmgB AAAhmlI AAAhmmb AAAhmmf AAAhmsW AAAhmsZ AAAhmtM AAAhm1I AAAhm2Y",
  "AAAhm2f AAAhm5F AAAhm5P AAAhm5S AAAhm5c AAAhm6a AAAhnnF AAAhnzV AAAhnzf AAAhn1F AAAhn1b AAAhn2D AAAhn2N",
  "AAAhn2R AAAhn3Z AAAhn3d AAAhn4O AAAhn4T AAAhn5A AAAhn5b AAAhn6K AAAhn6S AAAhn8N AAAhn8c AAAhn9A hKAAhA BAAhO",
  "hTAAsgS BAA06B ABA06E jAAChAskZ AAChAska CACskIskK ifACslTsmI hRBAkoA AAAktK AAAkoC ABAktM ACAkoD AFAktQ",
  "AAAkoa ACAkoG AAAkpB AJAkoJ AUAkrB BBAkoU ABAkuH AAAkuM AAAkuO AAAkuT AAAkuX AAAkuZ AAAkoc AAAkud AAAkuf",
  "ABAkod AAAkpA ABAkpC AAAkpH AAAkpJ AEAkpL AAAkpS AAAkpW AAAkqA AAAkqH AAAkqM ABAkvR ACAkqX ABAksE AAAksI",
  "ABAksR AAAksU AAAkse AAAktB DAAzwA AAAz0M AAAzwJ AAA12b AAAzwK AAAzxN AAAzwL AAA9pS AAAzyZ AAAzwZ AAAzwB",
  "AAA2pJ AAA15Q AAAz1a jAAChIkoAhJ AAChIkoChJ AAChIkoDhJ AAChIkoFhJ AAChIkoGhJ AAChIkoHhJ AAChIkoJhJ AAChIkoLhJ",
  "AAChIkoMhJ AAChIkoOhJ AAChIkoPhJ AAChIkoQhJ AAChIkoRhJ AAChIkoShJ AAChIhrgAhJ AAChIhskYhJ AAChIhs3EhJ",
  "AAChIht7chJ AAChIhuuIhJ AAChIhvgUhJ AAChIhwlMhJ AAChIhxqEhJ AAChIhx8QhJ AAChIhzhIhJ AAChIhzzUhJ AAChIh0mAhJ",
  "AAChIh04MhJ AAChIh1qYhJ AAChIhynchJ AAChIhxxEhygEhJ AAChIhxxEh12EhJ BAChIzwAhJ AAChIz0MhJ AAChIzwJhJ",
  "AAChI12bhJ AAChIz0UhJ AAChI0rNhJ AAChIzwDhJ AAChI0rLhJ AAChIzydhJ AAChI06BhJ AAChI54IhJ AAChI8jLhJ AAChI7hUhJ",
  "AAChI55IhJ AAChIhkuRhJ AAChI14fhJ AAChI5vFhJ AAChI6hKhJ AAChI54JhJ AAChI-pehJ AAChI1gNhJ AAChI8zZhJ",
  "AAChIhjlBhJ AAChI-qdhJ AAChI01UhJ AAChIz3DhJ AAChI1jchJ AAChI27GhJ AAChI93DhJ AAChIz4BhJ AAChIhjmHhJ",
  "AAChI06UhJ AAChI-rNhJ AAChIz4RhJ AAChIhgvKhJ AAChIhgvThJ AAA1qP AAA3zc AAA5sH AAA-8P IACjQjUjF AAChShR AAChShS",
  "AAChShT AAChShU AAChShV AAChShW AAChShX AAChShY AAChShZ AAChThQ AAChThR AAChThS AAChThT AAChThU AAChThV AAAkoA",
  "ABAkoC ACAkoF AAAkoJ ABAkoL AEAkoO AAAhrgA AAAhskY AAAhs3E AAAht7c AAAhuuI AAAhvgU AAAhwlM AAAhxqE AAAhx8Q",
  "AAAhzhI AAAhzzU AAAh0mA AAAh04M AAAh1qY AAChzhYhrnA AAChynchx6Y AAAhx1Q BAAzwA AAAz0M AAAzwJ AAA12b AAAz0U",
  "AAA0rN AAAzwD AAA0rL AAAzyd AAA06B AAA54I AAA8jL AAA7hU AAA55I AAAhkuR AAA14f AAA5vF AAA6hK AAA54J AAA-pe",
  "AAA1gN AAA8zZ AAAhjlB AAA-qd AAA01U AAA-uY AAA9pX AAA2rT AAAhkjJ AAA0pK AAA07Q AAA7nI AAAhmgF AAAz4R AAA0sZ",
  "AAA67D AAAzwK AAAzxN AAAzwL AAA3vG AAA0_T AAA05b AAA28X AAA27G AAA93D AAAz4B AAAhjmH AAA06U AAA2oc AAChThW",
  "AAChThX AAChThY AAChThZ AAChUhQ AAChUhR AAChUhS AAChUhT AAChUhU AAChUhV AAChUhW AAChUhX AAChUhY AAChUhZ",
  "AAChVhQ AAChR54I AAChS54I AAChT54I AAChU54I AAChV54I AAChW54I AAChX54I AAChY54I AAChZ54I AAChRhQ54I AAChRhR54I",
  "AAChRhS54I AACjIjH AACjFjSjH AACjFjW AACjMjUjE AAAslC AAAslE AAAslG AAAslI ABAslK AAAslN AAAslP AAAslR AAAslT",
  "AAAslV AAAslX AAAslZ AAAslb AAAsld AAAslf AAAsmB AAAsmE AAAsmG AAAsmI AFAsmK AAAsmS AAAsmV AAAsmY AAAsmb",
  "AEAsme AAAsnE AAAsnG AFAsnI ADAsnP AACz3E1kM AACslCsmRsncsmI AACslCsnLsmVslB AACslCsnTsmaslC AACslCsncsnL",
  "AACslEsmLsnTslQ AACslEsnTsmB AACslGslJsnT AACslIslZslPsncsmJ AACslIsncslLsnc AACslKsnTslZ AACslKsncsnA",
  "AACslLslEsnK AACslLsnJsmDsmI AACslLsnNsnKsnc AACslMsnNsnT AACslMsnTsme AACslOslM AACslOsmLsnc AACslNsnFsnKsnc",
  "AACslOsnLsmAsnc AACslNsnN AACslNsnNslQsnJsnA AACslNsnNsnBsncsmIsnL AACslNsnNsnPsmDsmI AACslQsnJsnA",
  "AACslQsnJsnAsmIsnT AACslPsnLslcslEsnN AACslPsnNsncsmN AACslRsncslZ AACslTsnLsmK AACslTsncsmd AACslVslEslPsnL",
  "AACslVsnTsmBsncsnA AACslXsnKsnTslQ AACslbsnTsmB AACslbsnTsmI AACsmAsncslZ AACsmHslX AACsmJsnL AACsmIsnT",
  "AACsmKsmO AACsmOsmDsmI AACsmPslEsmE AACsmRsncslbsnTsmI AACsmRsncsmE AACsmQsncsnMsnL AACsmUslCslZsmIsnL",
  "AACsmUslPsnL AACsmUslT AACsmTsnL AACsmVslBsnJsmDsmJ AACsmVslDsncsmI AACsmWsmDslXslHsnL AACsmVsnJsnT",
  "AACsmYslPslfsncsnL AACsmasld AACsmasmLsmS AACsmYsnLsmE AACsmasnTslZ AACsmasncslY AACsmZsncslf AACsmdslEsnTsmI",
  "AACsmcsnLsmI AACsmbsnT AACsmdsnTsmJ AACsmbsncsnL AACsmbsncsnT AACsmeslEslPsnN AACsmeslEsnL AACsmesmDsmP",
  "AACsmesnLslP AACsmesnTslXsnHsnT AACsmfslPsnNsnT AACsmfsnK AACsmfsnKsmQsncsnL AACsnBslM AACsnBslMsmIsnT",
  "AACsnBsncsmIsnL AACsnEsncsmJ AACsnEsncsnL AACsnGslCsnT AACsnKsmDsmIsnL AACsnKsnJ AACsnLsmUsnc AACsnLsncsmWsnL",
  "AACsnMsnA AACsnMsnTsmIslSsnT AACsnPsmDsmI AAChQ8lZ AAChR8lZ AAChS8lZ AAChT8lZ AAChU8lZ AAChV8lZ AAChW8lZ",
  "AAChX8lZ AAChY8lZ AAChZ8lZ AAChRhQ8lZ AAChRhR8lZ AAChRhS8lZ AAChRhT8lZ AAChRhU8lZ AAChRhV8lZ AAChRhW8lZ",
  "AAChRhX8lZ AAChRhY8lZ AAChRhZ8lZ AAChShQ8lZ AAChShR8lZ AAChShS8lZ AAChShT8lZ AAChShU8lZ AACjIjQjB AACjEjB",
  "AACjBjV AACjCjBjS AACjPjW AACjQjD AACjEjN AACjEjNhS AACjEjNhT AACjJjV AAC3zT4wQ AAC5xN1kM AAC2pH67D AAC5wO7lb",
  "AAC6hK34Pz4a-pe AACjQjB AACjOjB AAC9cjB AACjNjB AACjLjB AACjLjC AACjNjC AACjHjC AACjDjBjM AACjLjDjBjM AACjQjG",
  "AACjOjG AAC9cjG AAC9cjH AACjNjH AACjLjH AACjIja AACjLjIja AACjNjIja AACjHjIja AACjUjIja AAC9cjM AACjNjM",
  "AACjEjM AACjLjM AACjGjN AACjOjN AAC9cjN AACjNjN AACjDjN AACjLjN AACjNjNhS AACjDjNhS AACjNhS AACjLjNhS",
  "AACjNjNhT AACjDjNhT AACjNhT AACjLjNhT AACjNowVjT AACjNowVjThS AACjQjB AACjLjQjB AACjNjQjB AACjHjQjB AACjSjBjE",
  "AACjSjBjEowVjT AACjSjBjEowVjThS AACjQjT AACjOjT AAC9cjT AACjNjT AACjQjW AACjOjW AAC9cjW AACjNjW AACjLjW",
  "AACjNjW AACjQjX AACjOjX AAC9cjX AACjNjX AACjLjX AACjNjX AACjL-J AACjN-J BACjCjR AACjDjD AACjDjE AACjDowVjLjH",
  "BACjEjC AACjHjZ AACjIjB AACjIjQ AACjJjO AACjLjL AACjLjN AACjLjU AACjMjN AACjMjO AACjMjPjH AACjMjY AACjNjC",
  "AACjNjJjM AACjNjPjM AACjQjI BACjQjQjN AACjQjS AACjTjS AACjTjW AACjXjC AACjWowVjN AACjBowVjN AAChR5vF AAChS5vF",
  "AAChT5vF AAChU5vF AAChV5vF AAChW5vF AAChX5vF AAChY5vF AAChZ5vF AAChRhQ5vF AAChRhR5vF AAChRhS5vF AAChRhT5vF",
  "AAChRhU5vF AAChRhV5vF AAChRhW5vF AAChRhX5vF AAChRhY5vF AAChRhZ5vF AAChShQ5vF AAChShR5vF AAChShS5vF AAChShT5vF",
  "AAChShU5vF AAChShV5vF AAChShW5vF AAChShX5vF AAChShY5vF AAChShZ5vF AAChThQ5vF AAChThR5vF AACjHjBjM 8yAhMB TaB",
  "BAAhiK AAAhiM kEMB DhcB BAAhp7P ICB BAAnrZ AIB EAAhp8M BAAzF CCB DSB BAAzG AAAyc AAAzB AAAzM AAAzK BAA0e AAA0H",
  "AAA0d AAAhq6T AOB BAAhp8U AAA0C AAAnsO ACB BAAzE AOB BAAsb UAAjT AAAjD AAAjG AAAjR AAAhp_W CAApH AAAqT",
  "7CAAhp5H AAAhq5X AAAzL AAAhq6S JAA0N GiPAk9A zqAAAhjiI AAA53U AAAhj2K AAAhjmI AAA72R AAAzxS AAA0_F AAAhn8c",
  "AAAhn8c AAA2qR AAAhkuR AAA1sH AAA2qI AAA4vW AAA9zJ AAA_8F AAAhhxf AAAhh9a AAAhinY AAAhkkP AAA6wC AAA7ob AAA8mZ",
  "AAA8-e AAAhhhd AAAhkrK AAAhmvR AAAz0C AAA07V AAA64E AAA8wb AAAhhxN AAAhnwe AAA3qQ AAA7_L AAAhhuN AAAhirE",
  "AAA42J AAAhguY AAAhigf AAA32K AAA54X AAA7rK AAA83c AAAhkmO AAAz8G AAA0tX AAA02e AAA5mE AAA62T AAA8wQ AAA93H",
  "AAAhggB AAAhhwG AAAhhyc AAAhjvP AAAhl5S AAAhm7P AAAhnva AAA-kM AAA-rf AAA_tA AAAhg-J AAAhk4E AAAhnzf AAAhi2W",
  "AAA2mf AAA34E AAA_jA AAAhgje AAA8zC AAA-mK AAAhjmC AAAhl3X AAA2mY AAA3jC AAA6wT AAA7ua AAA74P AAA_pP AAA_xX",
  "AAAhlyL AAA02S AAAhgkL AAA0uc AAA0uM AAA-wc AAA_te AAAhg_R AAAhlzV AAAhi8A AAA42P AAA6wC AAAhi3e AAAzxZ AAA2_H",
  "AAA4gS AAA88H AAA9rQ AAA04X AAA-nb AAAz9f AAA39J AAAzwN AAA7mM AAA5rY AAA_pC AAA0-D AAA2ie AAA94B AAAhhiJ",
  "AAAhi1K AAA69a AAAhj9Q AAA7kI AAA43e AAAhg3F AAA49A AAA9rF AAAz1O AAA0rJ AAA0uJ AAA6kB AAA_nH AAAhgzP AAAhi2S",
  "AAAhkuP AAA03V AAA1iC AAA2rT AAA33M AAA5uF AAA7_e AAA-pK AAAhltN AAAhmzK AAAhn0X AAAhn2O AAA00b AAA52G AAA67X",
  "AAAhj7C AAA3zU AAA4sQ AAA4wA AAA5ka AAA75D AAA8qJ AAA9kJ AAA-uK AAA_vU AAAhgjP AAAhj5G AAAhhnO AAAhkhD AAAhk6K",
  "AAA0wX AAA01D AAA1ld AAA8mI AAAhimC AAAhi1K AAA32J AAA3_V AAA47b AAA69O AAA_he AAA87V AAAz3E AAA13Z AAA2_H",
  "AAA3ta AAA4gc AAA89S AAA9jJ AAA_8a AAAhgiG AAAhkxU AAAhl3W AAAhl6I AAAhmgY AAAz8L AAA-tO AAAhktU AAAhl1Y",
  "AAA4nB AAAz0G AAA0ma AAA2_O AAA3hf AAA5sZ AAA6wC AAA8uO AAA9yC AAAhhnc AAAhkjc AAAhn8N AAA50I AAAhlxO AAA00J",
  "AAA57b AAA5_T AAA7qB AAA70c AAA9gJ AAA9qZ AAA-jL AAA_oQ AAAhmie AAA0rN AAA4xO AAAhlzY AAA0hL AAA3oZ AAA7vK",
  "AAAhj5K AAA38L AAA4qE AAA6gX AAA88H AAAhl0G AAA0xJ AAA1gP AAA3jF AAA5wT AAA56O AAA6lI AAA7nF AAA9gG AAA9vC",
  "AAA_7Z AAAhimP AAAhinB AAAhkuM AAAhl3C AAA05f AAA71a AAA1gd AAA8uQ AAA9kY AAAhhva AAAhl1D AAAhniX AAAhn0f",
  "AAA58X AAA7uL AAAhgvI AAA-2L AAA-5A AAA_kS AAA82A AAA8kZ AAAhi6Y AAAz2A AAAhg5W AAA0xa AAA0wH AAA31G AAA42T",
  "AAA_mW AAA28F AAA7oe AAA51U AAAhj5b AAAhiiM AAAhlyN AAAhisL AAA32T AAA0qA AAA1uA CAA2ia BAA5zU CAA0ue AAA85K",
  "AAA92K AAA-pc AAA-qe AAA-rF AAA-sP AAAhl6W AAA_le AAA_9d BAAhhwS BAAhi3Y CAAhkhY AAAhknd DAAhmnP AAAhmnc",
  "AAAhmpI AAAhntU AAAhkme AAAhl1X AAAz9O AAA0nH AAA0qN AAA02J AAA03E AAA06R AAA1sd AAA1wG AAA1zI AAA2iA AAA2lI",
  "AAA3jE AAA3jO AAA4kU AAA4rI AAA4sO AAA4vS AAA5qP AAA5vC AAA50R AAA6kF AAA7rX AAA7wa AAA75C AAA8rO AAA8xL",
  "AAA9hC AAA-kR AAA-pe AAA-qJ AAA-qI AAA-qQ AAA-qW AAA-qd ABA-sN AAA-yA AAA-0B AAA--A AAA_vU AAA_wJ AAA_yB",
  "AAA_7S AAAhggF AAAhgvN AAAhgzZ AAAhgzZ AAAhhiX AAAhioQ AAAhisW AAAhi4B AAAhi5Z AAAhjmT AAAhjoI AAAhj9W AAAhkhY",
  "AAAhl3D AAAhl_f AAAhmhb AAA4jV AAAkw3O AAAhgwY CAAzxG AAA0tV AAA0rI AAAz8A AAA0qF AAA0sA AAA02H AAA03a AAA1sd",
  "AAA1qV AAA1sZ AAA1vC AAA2ia AAA2lT AAA2qE AAA2qU AAA2zC AAA25I AAA32S AAA32Z AAA37J AAA39N AAA4mY AAA4qO",
  "AAA4oI AAA4sO AAA4rA AAA4vS AAA4xU AAA4-E AAA5gc AAA5iS AAA5qW AAA5zU AAA54X AAA54b AAA56W AAA67Z AAA69a",
  "AAA7qB AAA72b AAA72L AAA75C AAA8ge AAA8rO AAA99H AAA8xV AAA81P AAA85K AAA9jR AAA9oG AAA9pb AAA9wd AAA9wf",
  "AAA92K AAA92b AAA93U AAA96K AAA96A AAA-mM AAA-1R AAA--A AAA_jb AAA_qb AAA_vU AAA_5e AAAhggF AAAhg6S AAAhg_P",
  "AAAhh7Z AAAhiqB AAAhisG AAAhisW AAAhi1f AAAhi3Y AAAhi2L AAAhi4B AAAhi3e AAAhi3N AAAhi5Z AAAhi8K AAAhjoI",
  "AAAhj5Y AAAhkjS AAAhksZ AAAhkzW AAAhlzc AAAhl3D AAAhl6W AAAhl-b AAAhl_f AAAhmgL AAAhmhb AAAhm4S AAAhn8c",
  "AAAkqiK AAAkqiE AAAks-V AAAu8d AAAwgY AAAwhZ AAAk0yJ AAAk3mQ AAAk_2T AAAhn6D AAAhn8O hGACjGjG AACjGjJ AACjGjM",
  "AACjGjGjJ AACjGjGjM AACjTjU AACjTjU MAChrUhrW AAChrUhrF AAChrUhrL AAChrehrW AAChrUhrN FAChuZhtU BAChvShtX",
  "AAAhvC AAAhuQ ABAhuT ACAhub AAAhvI AAAhvK AAAhL AAChvJhuB AAChvJhuC AAChvJhtchuB AAChvJhtchuC AAChuQhtX",
  "AAChuQhtY AAChuQhtc AAChuRhtc AAChuShtc AAChuThtc AAChuUhtc AAChuVhtc AAChuWhtc BAChuYhtc AAChuZhtc AAChuahtc",
  "AAChubhtc AAChuchtc BAChuehtc BAChvAhtc AAChvBhtc BAChvDhtc AAChvEhtc BAChvGhtc AAChvHhtc AAChvIhtc AAChvJhtc",
  "AAChvKhtc AAChuVhtZ AAChuRhtf AAChubhtf AAChvEhtf AAChuQhuc AAAhzR AAAhzR AAAhzb AAAhzb AAAhzb AAAhzb AAAhze",
  "AAAhze AAAhze AAAhze AAAh0A AAAh0A AAAh0A AAAh0A AAAhza AAAhza AAAhza AAAhza AAAhzf AAAhzf AAAhzf AAAhzf",
  "AAAhzZ AAAhzZ AAAhzZ AAAhzZ AAAh1E AAAh1E AAAh1E AAAh1E AAAh1G AAAh1G AAAh1G AAAh1G AAAh0E AAAh0E AAAh0E",
  "AAAh0E AAAh0D AAAh0D AAAh0D AAAh0D AAAh0G AAAh0G AAAh0G ABAh0G AAAh0H AAAh0H AAAh0H AAAh0N AAAh0N AAAh0M",
  "AAAh0M AAAh0O AAAh0O AAAh0I AAAh0I AAAh0Y AAAh0Y AAAh0R AAAh0R AAAh1J AAAh1J AAAh1J AAAh1J AAAh1P AAAh1P",
  "AAAh1P AAAh1P AAAh1T AAAh1T AAAh1T AAAh1T AAAh1R AAAh1R AAAh1R AAAh1R AAAh1a ABAh1a AAAh1b AAAh1b AAAh1b",
  "AAAh2A ABAh2A AAAh2B AAAh2B AAAh2B AAAh1e AAAh1e AAAh1e AAAh1e AAAh2S ABAh2S AAAh2T hBAAh1N AAAh1N AAAh1N",
  "AAAh1N AAAh2H AAAh2H AAAh2G AAAh2G AAAh2I AAAh2I AACh2HhzU AAAh2L AAAh2L AAAh2F AAAh2F AAAh2J AAAh2J AAAh2Q",
  "AAAh2Q AAAh2Q AAAh2Q AAAhyJ AAAhyJ AAChxGhxH AAChxGhxH AAChxGh2V AAChxGh2V AAChxGhyI AAChxGhyI AAChxGh2H",
  "AAChxGh2H AAChxGh2G AAChxGh2G AAChxGh2I AAChxGh2I AAChxGh2Q AAChxGh2Q AAChxGh2Q AAChxGhyJ AAChxGhyJ AAChxGhyJ",
  "AAAh2M AAAh2M AAAh2M AAAh2M AAChxGhxM AAChxGhxN AAChxGhyF AAChxGhyJ AAChxGhyK AAChxIhxM AAChxIhxN AAChxIhxO",
  "AAChxIhyF AAChxIhyJ AAChxIhyK AAChxKhxM AAChxKhxN AAChxKhxO AAChxKhyF AAChxKhyJ AAChxKhyK AAChxLhxM AAChxLhyF",
  "AAChxLhyJ AAChxLhyK AAChxMhxN AAChxMhyF AAChxNhxM AAChxNhyF AAChxOhxM AAChxOhxN AAChxOhyF AAChxThxM AAChxThxN",
  "AAChxThxO AAChxThyF AAChxVhxN AAChxVhyF AAChxWhxM AAChxWhxN AAChxWhxO AAChxWhyF AAChxXhxN AAChxXhyF AAChxYhyF",
  "AAChxZhxM AAChxZhyF AAChxahxM AAChxahyF AAChyBhxM AAChyBhxN AAChyBhxO AAChyBhyF AAChyBhyJ AAChyBhyK AAChyChxN",
  "AAChyChyF AAChyChyJ AAChyChyK AAChyDhxH AAChyDhxM AAChyDhxN AAChyDhxO AAChyDhyE AAChyDhyF AAChyDhyJ AAChyDhyK",
  "AAChyEhxM AAChyEhxN AAChyEhxO AAChyEhyF AAChyEhyJ AAChyEhyK AAChyFhxM AAChyFhxN AAChyFhxO AAChyFhyF AAChyFhyJ",
  "AAChyFhyK AAChyGhxM AAChyGhxN AAChyGhxO AAChyGhyF AAChyGhyJ AAChyGhyK AAChyHhxM AAChyHhyF AAChyHhyJ AAChyHhyK",
  "AAChyKhxM AAChyKhxN AAChyKhxO AAChyKhyF AAChyKhyJ AAChyKhyK AAChxQhzQ AAChxRhzQ AAChyJhzQ AAChAhyMhyR",
  "AAChAhyNhyR AAChAhyOhyR AAChAhyPhyR AAChAhyQhyR AAChAhyRhzQ AAChxGhxR AAChxGhxS AAChxGhyF AAChxGhyG AAChxGhyJ",
  "AAChxGhyK AAChxIhxR AAChxIhxS AAChxIhyF AAChxIhyG AAChxIhyJ AAChxIhyK AAChxKhxR AAChxKhxS AAChxKhyF AAChxKhyG",
  "AAChxKhyJ AAChxKhyK AAChxLhxR AAChxLhxS AAChxLhyF AAChxLhyG AAChxLhyJ AAChxLhyK AAChyBhyJ AAChyBhyK AAChyChyJ",
  "AAChyChyK AAChyDhxH AAChyDhyE AAChyDhyF AAChyDhyJ AAChyDhyK AAChyEhyF AAChyEhyJ AAChyEhyK AAChyFhxH AAChyFhyF",
  "AAChyGhxR AAChyGhxS AAChyGhyF AAChyGhyG AAChyGhyJ AAChyGhyK AAChyJhzQ AAChyKhxR AAChyKhxS AAChyKhyF AAChyKhyG",
  "AAChyKhyJ AAChyKhyK AAChxGhxM AAChxGhxN AAChxGhxO AAChxGhyF AAChxGhyH AAChxIhxM AAChxIhxN AAChxIhxO AAChxIhyF",
  "AAChxIhyH AAChxKhxM AAChxKhxN AAChxKhxO AAChxKhyF AAChxKhyH AAChxLhyF AAChxMhxN AAChxMhyF AAChxNhxM AAChxNhyF",
  "AAChxOhxM AAChxOhyF AAChxThxM AAChxThxN AAChxThxO AAChxThyF AAChxVhxN AAChxVhxO AAChxVhyF AAChxWhxM AAChxWhxN",
  "AAChxWhxO AAChxWhyF AAChxXhxN AAChxYhyF AAChxZhxM AAChxZhyF AAChxahxM AAChxahyF AAChyBhxM AAChyBhxN AAChyBhxO",
  "AAChyBhyF AAChyChxN AAChyChyF AAChyDhxM AAChyDhxN AAChyDhxO AAChyDhyE AAChyDhyF AAChyEhxM AAChyEhxN AAChyEhxO",
  "AAChyEhyF AAChyEhyH AAChyFhxM AAChyFhxN AAChyFhxO AAChyFhyF AAChyGhxM AAChyGhxN AAChyGhxO AAChyGhyF AAChyGhyH",
  "AAChyHhxM AAChyHhyF AAChyHhzQ AAChyKhxM AAChyKhxN AAChyKhxO AAChyKhyF AAChyKhyH AAChxGhyF AAChxGhyH AAChxIhyF",
  "AAChxIhyH AAChxKhyF AAChxKhyH AAChxLhyF AAChxLhyH AAChxThyF AAChxThyH AAChxUhyF AAChxUhyH AAChyDhyE AAChyDhyF",
  "AAChyEhyF AAChyGhyF AAChyGhyH AAChyKhyF AAChyKhyH AAChyAhyOhyR AAChyAhyPhyR AAChyAhyQhyR AAChxXhyJ AAChxXhyK",
  "AAChxZhyJ AAChxZhyK AAChxahyJ AAChxahyK AAChxThyJ AAChxThyK AAChxUhyJ AAChxUhyK AAChxNhyJ AAChxNhyK AAChxMhyJ",
  "AAChxMhyK AAChxOhyJ AAChxOhyK AAChxVhyJ AAChxVhyK AAChxWhyJ AAChxWhyK AAChxUhxM AAChxUhxN AAChxUhxO AAChxUhyF",
  "AAChxUhxR AAChxThxR AAChxVhxR AAChxWhxR AAChxXhyJ AAChxXhyK AAChxZhyJ AAChxZhyK AAChxahyJ AAChxahyK AAChxThyJ",
  "AAChxThyK AAChxUhyJ AAChxUhyK AAChxNhyJ AAChxNhyK AAChxMhyJ AAChxMhyK AAChxOhyJ AAChxOhyK AAChxVhyJ AAChxVhyK",
  "AAChxWhyJ AAChxWhyK AAChxUhxM AAChxUhxN AAChxUhxO AAChxUhyF AAChxUhxR AAChxThxR AAChxVhxR AAChxWhxR AAChxUhxM",
  "AAChxUhxN AAChxUhxO AAChxUhyF AAChxThyH AAChxUhyH AAChxXhyF AAChxThxM AAChxThxN AAChxThxO AAChxUhxM AAChxUhxN",
  "AAChxUhxO AAChxXhyF AAChxYhyF AAChxHhyL AAChxHhyL SAChxKhxMhyF AAChxKhxNhxM AAChxKhxNhxM AAChxKhxNhyF",
  "AAChxKhxOhyF AAChxKhyFhxM AAChxKhyFhxN AAChxKhyFhxO AAChxMhyFhxN AAChxMhyFhxN AAChxNhyFhyK AAChxNhyFhyJ",
  "AAChxThxNhxM AAChxThxMhxN AAChxThxMhyJ AAChxThyFhxN AAChxThyFhxN AAChxThyFhxM AAChxThyFhyF AAChxThyFhyF",
  "AAChxVhxNhxN AAChxVhxNhxN AAChxVhyFhyF AAChxUhxNhyF AAChxUhxNhyF AAChxUhxMhyK AAChxUhyFhxO AAChxUhyFhxO",
  "AAChxUhyFhyF AAChxUhyFhyF AAChxWhxNhyJ AAChxWhxOhyF AAChxWhxOhyF AAChxXhyFhxN AAChxXhyFhxN AAChxXhyFhyF",
  "AAChxXhyFhyK AAChxZhxMhyF AAChxZhyFhyF AAChxZhyFhyF AAChxZhyFhyJ AAChxahyFhyF AAChxahyFhyK AAChxahyFhyJ",
  "AAChyBhxOhyF AAChyBhxOhyF AAChyChyFhxN AAChyChyFhyF AAChyEhxNhyF AAChyEhxNhyK AAChyEhxNhyJ AAChyEhxMhxM",
  "AAChyEhxMhxM AAChyEhxOhyF AAChyEhxOhyF AAChyEhyFhxN AAChyEhyFhxN AAChyFhxNhxM AAChyFhxNhyF AAChyFhxNhyK",
  "AAChyFhxMhxN AAChyFhxMhyF AAChyFhxOhxM AAChyFhxOhyF CAChyFhxMhxO AAChyHhyFhxM AAChyHhyFhyF AAChyGhxNhyF",
  "AAChyGhxNhyJ AAChyGhxMhyF AAChyGhxMhyF AAChyGhxMhyJ AAChyGhyFhyK AAChyGhyFhyJ AAChyKhyFhyF AAChyKhyFhyF",
  "AAChxIhxOhyK AAChxKhxMhyK AAChxKhxMhyJ AAChxKhxOhyK AAChxKhxOhyJ AAChxKhyFhyK AAChxKhyFhyJ AAChxMhyFhyK",
  "AAChxMhxNhyJ AAChxMhyFhyJ AAChxThxOhyJ AAChxVhxNhyK AAChxUhxNhyK AAChxWhxNhyK AAChyEhxMhyK AAChyEhyFhyK",
  "AAChyKhxNhyK AAChyKhxMhyK AAChyKhyFhyK AAChyFhyFhyK AAChyChyFhyK AAChyGhxNhyK AAChyChyFhxN AAChyEhxNhyF",
  "AAChxZhyFhyK AAChyDhyFhyK AAChyGhxMhxN AAChyFhxOhyK AAChyEhxMhyF AAChyDhyFhyF AAChyEhxMhyF AAChyGhxMhxN",
  "AAChxMhxNhyK AAChxNhxMhyK AAChyFhxMhyK AAChyBhyFhyK AAChxIhxNhyK AAChyDhyFhyF AAChxZhxMhyF AAChxVhyFhyF",
  "AAChxThxOhyK AAChyGhxMhyK hIAChxVhyEh2S AAChyChyEh2S AAChxHhyEhyEhyH AAChxHhyDhxIhxR AAChyFhxNhyFhxP",
  "AAChxVhyEhxZhyF AAChxRhxThyIhyE AAChxZhyEhyKhyH AAChyIhxThyEhyF AAChxVhyEhyJ",
  "AAChxVhyEhyJhAhxHhyEhyEhyHhAhxZhyEhyKhyHhAhyIhxThyEhyF AAChxMhyEhAhxMhyEhxHhyEhyH AAChxRh2MhxHhyE TAAhM AAAsgB",
  "BBAha AAAhB AAAhf ABAsgW YAAogU AAAogT AAAif AAAif ABAhI AAAjb AAAjd ABAsgU ABAsgQ ABAsgK ABAsgI ADAsgM CAAib",
  "AAAid AAChA4F AAChA4F AAChA4F AAChA4F AAAif AAAif AAAif AAAhM AAAsgB CAAhb AAAha AAAhf AAAhB AAAogU ABAhI",
  "AAAjb AAAjd ABAsgU AAAhD AAAhG ABAhK AAAhN AAAhc AAAhe AAAhd BAAic ABAhE AAAiA EAChAhyL AAChyAhyL AAChAhyM",
  "BAChAhyN BAChAhyO AAChyAhyO AAChAhyP AAChyAhyP AAChAhyQ AAChyAhyQ AAChAhyR AAChyAhyR AAChAhyS AAChyAhyS ABAhxB",
  "ABAhxC ABAhxD ABAhxE ABAhxF AAAhxG AAAhxG ABAhxG ABAhxH AAAhxI AAAhxI ABAhxI ABAhxJ AAAhxK AAAhxK ABAhxK",
  "AAAhxL AAAhxL ABAhxL AAAhxM AAAhxM ABAhxM AAAhxN AAAhxN ABAhxN AAAhxO AAAhxO ABAhxO ABAhxP ABAhxQ ABAhxR",
  "ABAhxS AAAhxT AAAhxT ABAhxT AAAhxU AAAhxU ABAhxU AAAhxV AAAhxV ABAhxV AAAhxW AAAhxW ABAhxW AAAhxX AAAhxX",
  "ABAhxX AAAhxY AAAhxY ABAhxY AAAhxZ AAAhxZ ABAhxZ AAAhxa AAAhxa AAAhxa AAAhyB AAAhyB AAAhyB ABAhyB AAAhyC",
  "AAAhyC ABAhyC AAAhyD AAAhyD ABAhyD AAAhyE AAAhyE ABAhyE AAAhyF AAAhyF ABAhyF AAAhyG AAAhyG ABAhyG AAAhyH",
  "AAAhyH ABAhyH ABAhyI ABAhyJ AAAhyK AAAhyK AAAhyK AAChyEhxC AAChyEhxC AAChyEhxD AAChyEhxD AAChyEhxF AAChyEhxF",
  "AAChyEhxH AAChyEhxH EfAhB AZAjB AhDAib ABAqsF AAAhO ABAsgM AAAsgB AAAsnb AAAsnS AAAslB AAAslD AAAslF AAAslH",
  "AAAslJ AAAsnD AAAsnF AAAsnH AAAsmD AAAsnc AAAslC AAAslE AAAslG AAAslI ABAslK AAAslN AAAslP AAAslR AAAslT",
  "AAAslV AAAslX AAAslZ AAAslb AAAsld AAAslf AAAsmB AAAsmE AAAsmG AAAsmI AFAsmK AAAsmS AAAsmV AAAsmY AAAsmb",
  "AEAsme AAAsnE AAAsnG AFAsnI AAAsnP AAAsnT ABAskZ BBAkoA AAAktK AAAkoC ABAktM ACAkoD AFAktQ AAAkoa ACAkoG",
  "AAAkpB AJAkoJ DFAkrB CFAkrH CFAkrN CCAkrT DBAlC AAAlM AAChA4E AAAlG AAAlF AAAolJ BAApoC ADAosQ AAAptA AAApuL",
  "hgRhHAihhI kIhDAihmY kcKAihsX BOAihtD BGAihtT BBAihtb vLBA2Q AAAnG AAA0Z AAAyT BAA1D AAAhq7G AAA1F AAA1E ABAyW",
  "AAAnsR AAAyY AAAye AAA1J AAAzE AAAzC AAAzA AAA0b AAApH AAA0c AAAzH AAA0E ABA1K AAAzM AAAj34E AAAhp8O AAAzO",
  "AAAj34F AAA0O AAAj34G AAAnY ABAzW AAAjR AAAza AAAj34I ABAzd AAA0A AAA1I AAA1G AAAhq7H AAA1H AAA0I AAArjR BAA0P",
  "ABA1B AAA0Y ACAuA AAAj34K AAAj34e hmFhSAijmA kdVAijrQ i5afAimmA 1sAfAi7zA iAYAi71b 3wdZAjB AJAhQ hjEACj0qXj0rF",
  "AACj0qYj0rF AACj0qYj0rFj0rO AACj0qYj0rFj0rP AACj0qYj0rFj0rQ AACj0qYj0rFj0rR AACj0qYj0rFj0rS iWACj0tZj0rF",
  "AACj0taj0rF AACj0tZj0rFj0rO AACj0taj0rFj0rO AACj0tZj0rFj0rP AACj0taj0rFj0rP xfZAjB AZAjB AZAjB AGAjB BRAjJ",
  "AZAjB AZAjB AAAjB BBAjD CAAjH CBAjK CDAjO BHAjT ADAjB BAAjG BGAjI BKAjQ AZAjB AZAjB ABAjB BDAjE CHAjK BGAjT",
  "BZAjB ABAjB BDAjE BEAjJ BAAjP DGAjT BZAjB AZAjB AZAjB AZAjB AZAjB AZAjB AZAjB AZAjB AZAjB AZAjB AZAjB AZAjB",
  "AZAjB AAApR AAAxX CQA9R AAA9Y AGA-D AAAowH AQA9R AAA-D AGA-D AAAowC AAA9V AAA9Y AAA9a AAA-G AAA-B AAA-A AQA9R",
  "AAA9Y AGA-D AAAowH AQA9R AAA-D AGA-D AAAowC AAA9V AAA9Y AAA9a AAA-G AAA-B AAA-A AQA9R AAA9Y AGA-D AAAowH AQA9R",
  "AAA-D AGA-D AAAowC AAA9V AAA9Y AAA9a AAA-G AAA-B AAA-A AQA9R AAA9Y AGA-D AAAowH AQA9R AAA-D AGA-D AAAowC AAA9V",
  "AAA9Y AAA9a AAA-G AAA-B AAA-A AQA9R AAA9Y AGA-D AAAowH AQA9R AAA-D AGA-D AAAowC AAA9V AAA9Y AAA9a AAA-G AAA-B",
  "AAA-A AAA-d AAA-d CJAhQ AJAhQ AJAhQ AJAhQ AJAhQ ihQIAhhQ ACAhha AKAhhe AAAhiL ABAhiN AAAhp0J AAAhmZ AAAhiW",
  "AAAhiY AAAhnJ AAAhlP AAAhmP AIAhhQ ABAhha ABAhhe AAAhiB AFAhiD ABAhiK AAAhkR AAAhiW AAAhiV AAAhif AAAhlL",
  "AAAhpyR AAAhlR ikShBAj6pC hmeBAhxH AAAhxM AAAhxP BAAhyI AAAhxS AAAhxN AAAhxX AAAhyK ADAhyD AAAhxT AAAhxZ",
  "AAAhyB AAAhxV AAAhyC AAAhxR AAAhxU ABAhxK AAAhxO AAAhxQ AAAhxW AAAhxY AAAhxa AAAhzO AAAh1a AAAh1B AAAhzP",
  "BAAhxI AAAhxM BAAhyH CAAhxN BAAhyK ADAhyD AAAhxT AAAhxZ AAAhyB AAAhxV AAAhyC BAAhxU ABAhxK AAAhxO BAAhxW",
  "BAAhxa GAAhxM EAAhxN BAAhyK BAAhyE BAAhyG AAAhxT AAAhxZ BAAhxV AAAhyC BAAhxU CAAhxO BAAhxW BAAhxa BAAh1a",
  "BAAhzP BAAhxI AAAhxM BAAhyH CAAhxN AAAhxX AAAhyK AAAhyD BBAhyF AAAhxT AAAhxZ AAAhyB AAAhxV AAAhyC BAAhxU",
  "ABAhxK AAAhxO BAAhxW AAAhxY AAAhxa AAAhzO BAAh1B BBAhxH AAAhxM AAAhxP ABAhyH AAAhxS AAAhxN AAAhxX AAAhyK",
  "BCAhyE AAAhxT AAAhxZ AAAhyB AAAhxV AAAhyC AAAhxR AAAhxU ABAhxK AAAhxO AAAhxQ AAAhxW AAAhxY AAAhxa FAAhxI",
  "AAAhxM AAAhxP BAAhyI AAAhxS AAAhxN AAAhxX AAAhyK BCAhyE AAAhxT AAAhxZ AAAhyB AAAhxV AAAhyC AAAhxR AAAhxU",
  "ABAhxK AAAhxO AAAhxQ AAAhxW AAAhxY AAAhxa yFAChQhM AAChRhM AAChShM AAChThM AAChUhM AAChVhM AAChWhM AAChXhM",
  "AAChYhM AAChZhM FAChIjBhJ AAChIjChJ AAChIjDhJ AAChIjEhJ AAChIjFhJ AAChIjGhJ AAChIjHhJ AAChIjIhJ AAChIjJhJ",
  "AAChIjKhJ AAChIjLhJ AAChIjMhJ AAChIjNhJ AAChIjOhJ AAChIjPhJ AAChIjQhJ AAChIjRhJ AAChIjShJ AAChIjThJ AAChIjUhJ",
  "AAChIjVhJ AAChIjWhJ AAChIjXhJ AAChIjYhJ AAChIjZhJ AAChIjahJ AACsgUjTsgV AAAjD AAAjS AACjDjE AACjXja BZAjB",
  "AACjIjW AACjNjW AACjTjE AACjTjT AACjQjQjW AACjXjD aACjNjD AACjNjE AACjNjS hDACjEjK jPACsjbsiL AACslTslT AAAslV",
  "NAA4yL AAA26X AAA0-M AAAsmH AAAz0M AAA2oa AAAhivD AAA2pJ AAAz1E AAA5xA AAA8pB AAA5sZ AAA0yN AAA38M AAA0sN",
  "AAA5tQ AAA0wd AAA_qC AAA9of AAAhjlJ AAA2nQ AAA1hZ AAA74U AAA40V AAA46V AAAzwA AAAzwJ AAAhkiK AAA3vG AAAzxN",
  "AAA0_T AAA44H AAAhjrQ AAA4yT AAA-sB AAA-za AAA1gI AAA70A AAA54J AAA54I AAA9pT AAA0zS AAA1tW AAAhkqN",
  "EACsgU55MsgV AACsgUzwJsgV AACsgUz0MsgV AACsgU28JsgV AACsgU8lZsgV AACsgU4yTsgV AACsgU92XsgV AACsgU02dsgV",
  "AACsgU5qXsgV HAA38X AAA0_P iseJAhQ h_gGAAzxd AAAzxY AAAzyB AAAkgpC AAAz7A AAAz9O AAAz9b AAA0gC AAA0ja AAA0kZ",
  "AAA0nH AAA0mP AAAtke AAAkhxa AAA0qN AAA0qU AAA0rE AAA0rX AAAkhoc AAAtlZ AAA0rH AAA0sN AAAkhqL AAA0sX AAA0tE",
  "AAAz2M AAA0tM AAA0tV AAAlkuf AAA0vV AAA0wD AAAtmf AAA0xb AAA0yG AAA0zS AAA0zX AAAtoV AAA02H AAA02J AAA03E",
  "AAA03a ABA04F AAA04X AAA06J AAA06R AAA06a AAA07T AAA07d AAA07f AAA07f AAA07f AAAkixM AAA8jQ AAA0-K AAA0-f",
  "AAAki7D AAA0_L AAA0_R AAA1gG AAA1ke AAA1hY AAA1iI AAA1jI AAA1lC AAA1nW AAA1oQ AAA1qT AAA1rD AAA1sE AAA1sE",
  "AAA1sZ AAA1tL AAA1tT AAA1uC AAA14W AAA1wG AAA14X AAA1yR AAA1zU AAA0wH AAA2nO AAA1-O AAA1_U AAA2gN AAA18L",
  "AAA2hS AAA2hR AAA2lM AAAklnE AAA2nS AAA2nX AAA2oG AAA2oa AAA2pC AAA2rC AAAkl1I AAAkl3K AAA2vM AAA2wb AAA2xH",
  "AAA2uY AAA2zG AAAt3O AAAt3c AAA24I AAA25e AAA25e AAAkmuI AAA2-D AAA2-Y AAA2_H AAA2_T AAAkm4Y AAA2_f AAA3gG",
  "AAA36T AAA3hC AAAt8B AAA3jA AAA3jO AAA3mA AAA3kN AAAknvE AAA3qD AAAknvG AAA3rO AAA3rL AAA3rc ABA3vB AAAuhP",
  "AAA3vd AAA3xI AAA3xd AAA3zJ AAAujC AAAkosD AAAujc AAA31Q AAA31T AAA31W AAA32K AAAlo8S AAA33e AAAko5R AAAko5R",
  "AAAhgwB AAA35C AAA35C AAAumH AAAks1Y AAAk4ua AAA37C AAA37L AAAunD AAA38a AAA3-N AAA3-X AAA3_Z AAA4kB AAAupa",
  "AAAuoc AAA4kU AAAkp2U AAA4mH AAA4qI AAA4qM AAA4qO AAA4qM AAA4ra AAA4sO AAA4tS AAA4tE AAA4tP AAA4ue AAA4vS",
  "AAA4vW AAA4wQ AAA4wb AAA4yd AAA41R AAA42U AAA46Q AAAkq4M AAA45d AAA43c AAA47I AAA48D AAA4_E AAAkq_R AAA5hC",
  "AAA4-F AAA49J AAAuxO AAA5jJ AAA5je AAA5kd AAA5jX AAAuzM AAA5qP AAA5rM AAAksgK AAA5vD AAA53Y AAA5yJ AAAu4Z",
  "AAA50R AAAu4I AAAu3E AAA0sS AAA0sV AAA54A AAA50c AAAhglN AAAw-Z AAA54X AAA54b AAA55B AAA56e AAA56T AAAks-D",
  "AAAu6J AAA5_a AAA58F AAA6iS AAA6kF AAAktjN AAA6kO AAA6gf AAA6oU AAAu8d AAA6qC AAA6tD AAA6vK AAA61I AAAkt1D",
  "AAA62b AAAvgY AAA65B AAAkulH AAA66U AAAviO AAA67S AAA68f ABA69a AAAku0N AAAknoL AAAku3a AAA7iO AAAkvlc AAA7lf",
  "AAA7mN AAA7jH AAA7oW AAA7pe AAA7rX AAA7qB AAA7rJ AAA7rY AAA7sF AAAkvoe AAA7pU AAA7xP AAA7zO AAAvpT AAA72L",
  "AAA72H AAAkv2R AAA7vZ AAA77O AAAkv6e AAAkv8O AAA7-G AAA8hZ AAA8ge AAA8gb AAAvsW AAA8iK AAA8jd AAA8jX AAA8lN",
  "AAAkhpF AAA8qF AAAkwzD AAA8sc AAAkw9L AAA8xI AAA8xV AAA8yQ AAAkxwI AAA80A AAA80V AAAkx5V AAAkygU AAA87a AAA88L",
  "AAAv1M AAA89F AAAv1Y AAAv1Y AAA9iH AAA9ic AAA9jR AAA9kF AAA9mK AAAv4b AAA9pE AAAkzhW AAA9pe AAAkzkS AAA9rQ",
  "AAAkosf AAA9wQ AAAkz9B AAAkz9Y AAAk0iE AAAv_c AAAwgI AAA93U AAAk0nT AAAk0nS AAAk0oZ AAAk0pT ABA94e AAA94f",
  "AAA96K AAAwhZ AAA98L AAAwiG AAAwkW AAAk1gd AAA-iO AAA-kM AAA-mM AAAwnD AAAk1xG AAA-qW AAAk10a AAAk12F AAA-sP",
  "AAA-vL AAAwpP AAA-yA AAA-yK AAA-yP AAAk2rc AAAk21H AAAk21H AAA-3O AAAwwC AAAk29L AAA--G AAA--J AAAwxH AAAk3kA",
  "AAA_mS AAAw1A AAA_nI AAA_nD AAA_oA AAAk38G AAA_rD AAAw4B AAA_uH AAA_wC AAA_yF AAAw5U AAAk4xI AAAk4yH AAAw6Z",
  "AAAk42Z AAA_7a AAAk45e AAA_8V AAA__a AAAhggF AAAk5ma AAAk5pD AAAhgjA AAAk5tI AAAhgjQ AAAks6f AAAw-V AAAhglS",
  "AAAhgoD AAAxgL AAAhgpe AAA21V AAAk59H AAAk59V AAAks8T AAAks8c AAAhgwB AAAhgwE AAAhj8e AAAxjL AAAhg0R AAAhg0L",
  "AAAhg0d AAA01T AAAhg1R AAAhg1T AAAhg1d AAAhg3G AAAk65c AAAhg3F AAAhg4d AAAhg7D AAAhg9N AAAhg5D AAAhg9d AAAhg_H",
  "AAAhhiX AAAhg6T AAAhg-K AAAhg-M AAAhg-c AAAk7hW AAAk7rL AAAk7mV AAAxpL AAAhhnR AAAhhnT AAAhhoW AAAk8-K AAAhhrE",
  "AAAk75M AAAxqd AAAxrB AAAk79R AAAk8mS AAAxrL AAAhhyQ AAAhhyc AAAhhzH AAAhhzJ AAAhh1J AAAhh0I AAAhh4O AAAhh3C",
  "AAAhh7Z AAAhh5I AAAhh7L AAAhh8G AAAxuX AAAhh_B AAAhigB AAAxvZ AAAhijA AAAhijD AAAk9zH AAAhimX AAAhime AAAxxV",
  "AAAhina AAAtlb AAAk-lO AAAk-rG AAAx1e AAAx2H AAAhi1A AAAhi3N AAAhi8K AAAhjiV AAAk_lI AAAhjlL AAAhjmB AAAhjob",
  "AAAhjrX AAAk_5P AAAkigE AAAhjuL AAAhjtc AAAhjvQ AAAkime AAAhj2U AAAhj5Y AAAlhuS AAAlhvN AAAhkkU AAAhknR",
  "AAAhkoR AAAlh5O AAAhkob AAAhkxY ABAhk2X AAAhkzc AAAhk_Z AAAhlgV AAAli_a AAAhlsL AAAysV AAAhltX AAAljrX AAAyvG",
  "AAAhl2D AAA3tS AAAhl5D AAAlkqF AAAlkwa AAAyzO AAAyzW AAAhl_A AAAllgK AAAy1S AAAllkW AAAhmgL AAAhmgL AAAhmhJ",
  "AAAlltW AAAhmnC AAAy5T AAAhmpJ AAAhmtH AAAhmuC AAAhmve AAAy-O AAAlm5Q AAAhm4S AAAhniA AAAhnnd AAAzmO AAAznN",
  "AAAhnrH AAAlomO AAAznY AAAlooF AAAlowO AAAlo0R AAAhn1b AAAzqW AAAhn3Z AAAhn3e AAAhn4F AAAhn4P AAAhn4W AAAhn5b",
  "AAAlpwA"]

/-- The characters that are left out. -/
def ignored : List Stretch := readTable [
  "lNA 1BA jwPB hyTB iVE h_bA iUE FF knUA hzkbP nPA lAA hvnfD lmPH 4r8FnP"]

/-- The characters that may not stand in a name. -/
def disallowed : List Stretch := readTable [
  "kAf 2YB GD HA BA UA sNA hGB hSB DA hXH bD GQ WA mAA hQB hbB jFN hbB hRB PA cB BA LE hAG iLA lBA IB CB WA HA BC",
  "EB JB CB EH BD CA FB ZB DA GD CB WA HA CA CA CB BA FD CB DC BG EA BG RJ DA JA DA WA HA CA FB KA DA DB BO EB MG",
  "HA DA IB CB WA HA CA FB JB CB DG DD CA FB SJ CA GC DA EC CA BA CC CC DC MD FC DA EB BF BN VE NA DA XA QB JA DA",
  "EG CA DA CB EB KG WA DA XA KA FB JA DA EG CE DA EB KA DL NA DA hTA DA GD QB aA DA SC YA JA BB HC BD GA BA IF",
  "KB DL haD dhE CA BA FA YA BA XB FA BA HA KB Ef iIA hED hHA hEA PA NhE mGA BE BB rZA EB HA BA EB hJA EB hBA EB",
  "HA BA EB PA hZA EB iDB hAC aF iWB GB 0AA cC iZG WI YI UL NA DA CL ieB KF KF aF iZG hLE iGJ fA MD MD BC hKB FK",
  "hMD aF LC heB iBA dB LF KF OB hOB MT iNA lGH hcC PC heE hLB LH hLE wWB GB hGB GB IA BA BA BA fB hVA PA OB GA",
  "TB DA JA OB UC BG hWE IB bA NC hCN hBO kMD 0aV LU hIT h2YB reE hNA BE BB hYG CN YI HA HA HA HA HA HA HA HA",
  "jehB aA iZL mWhJ iAA iWB jHE hLA ieA iWJ hPA tCA EA QA 8lUC hXI qcT lYH mdT hcC KF hYH iGH MF jUK eC iOA LD",
  "hBA hXI OB KB jHX cJ GB GB GI HA HA hcD jeB KF q9EL XD hRD igAmnf rOB jKhF HL FE aA FA BA CA CA 0Kf hCA GG QA",
  "hBB TA ED FA kHB BA leC GB GB GB DC HA HQ MA aA TA CA PB OhB jbE DD hNC iYA NC BhO hOkB dC hRO cD hEI eE hLE",
  "eA hFD OhJ keB KF hED hED hIH hUK MA PA HA CA LA PA HA CC hUL pXI WJ IX GA hKA JiE GB BA hMA CC BB XA iIH JhP",
  "TA CE hBC bE bhF hYD UB hSA CE IA DA dB DD KG JG iAf hHD MI hWC dB bE aG EL HiP iJhW hTM hTG hOH KF hGC dH CmP",
  "fA hKA DB CP GH JhA hOH hKV ahF cT XI iOD hEI heA FM ZG KF hVA SH hHI jAA UK SA hPhd HA BA EA PA LF hbE KF EA",
  "IB CB WA HA CA FA KB CB DB BF BE HB HC FK KA BB BA hGA KA BB BA EA KA CH Cc icA Fd iIH KlF hWB hGhB iFK KF NS",
  "haF KF Ub bB PD XlY hcjD iTL IB BB IA CA eA CB MI KiF IB hOB La iIH iTM iJG KiV IiX hCN KF JA hNA OJ dC hAB WA",
  "OiI HA CA hMC BA CA JH KF GA CA hFA CA GG KF hMD KnV ZG RA hJC diU BO hSM 8bjF jPA FK mEiyL jDM hhQP WJ j8bE",
  "yHm1Y hah2F xZG fA KD iRA KF eB GJ iGJ KA HA VE TtP hamF ibE ZB ZhL iLD hZG Rhf FK HI nmWhI hAjA jTovc EA HA",
  "CA pDO Bc DB BN EH sMioD jLE NC JG KB Ij6b ndC tUF XO RO hOB XI jUhb nWJ hHB mCU iGjZ UL UL iXI ZkG iVA iHA CB",
  "BB CB EA MA BA HA iBA EB IA HA cA EA FA BC HA qUB pEB 1eO FA PhiP fF GmU HA RB HA CA FE hehA BjP hNC OB KD Cpf",
  "fQ haE BuP hKmV hLD Blf fA WH Cmf HA EA CA PA mFB QhI iMD KD C4Q iEiL hdmB EA bA CA BB BA KA EA BA BF BD BA BA",
  "BA DA CA BB BA BA BA BA BA CA BB EA HA EA EA BA KA RE DA FA RhT CoN hMD jEL PB PA PA hFK lNhX dM hMD JG CN GkZ",
  "-ZC RC NC maF MD BO MD hYH KF hIH eB MD CN JhG qYH OB NC LC hZA BD QB MD KG kTA jHhgE hp3Af koeB l0OB npRO",
  "zOitB wehvB k6LE opK1zkF nQl_wP"]

/-- What a character is mapped to, unless it may not stand in a name. -/
def image? (c : Char) : Option (List Char) :=
  if lists disallowed c then none
  else if lists ignored c then some []
  else match stretch? images c with
    | some s => some (s.image c)
    | none => some [c]

end FleetRouting.Domain
