/-
**A vocabulary.**

A list of words for environments that need one. Words of one length have an order, since a draw
picks a place in it.
-/

import Specimen.Text.CharRanges

namespace Specimen

namespace Vocabulary

/-- The words, shorter ones first. -/
def text : String :=
  "a I as at be by do go he if in it me Mr my no of ok on or PM so to TV up us we act add age ago
  air all and any arm art ask bad bag bar bed big bit box boy but buy can car cup cut day dog eat
  end eye far few fly for gas get gun guy her him his hit hot how its job key kid law lay leg let
  lot low man may Mrs new nor not now off oil old one our out own pay per put red run say sea see
  set she sit six son tax ten the too top try two use war way who why win yes yet you able also
  area away baby back ball bank base beat best bill blue body book born both call card care case
  cell city cold cost dark data deal deep door down draw drop drug each east easy edge else even
  ever face fact fall fast fear feel fill film find fine fire firm fish five food foot form four
  free from full fund game girl give goal good grow hair half hand hard have head hear help here
  high hold home hope hour huge idea into item join just keep kind know land last late lead left
  less life like line list live long look lose loss main make many mean meet mind miss more most
  move much must name near need news next nice none note once only onto open over page part pass
  past pick plan play poor pull push race rate read real rest rich rise risk road rock role room
  rule safe same save seat seek seem sell send show side sign sing site size skin some song soon
  sort star stay step stop such sure take talk task team tell tend term test than that them then
  they this thus time town tree trip true turn type unit upon very view vote wait walk wall want
  wear week well west what when whom wide wife will wind wish with word work yard yeah year your
  about above admit adult after again agent agree ahead allow alone along among apply argue avoid
  begin black blood board break bring build carry catch cause chair check child civil claim class
  clear close coach color could court cover crime dream drive early eight enjoy enter event every
  exist field fight final first floor focus force front glass great green group guess happy heart
  heavy hotel house human image issue large later laugh learn least leave level light local major
  maybe media might model money month mouth movie music never night north occur offer often order
  other owner paper party peace phone piece place plant point power price prove quite radio raise
  range reach ready right scene score sense serve seven shake share short since skill small smile
  sound south space speak spend sport staff stage stand start state still stock store story study
  stuff style table teach thank their there these thing think third those three throw today total
  tough trade treat trial truth under until value visit voice watch water where which while white
  whole whose woman world worry would write wrong young accept across action affect agency almost
  always amount animal answer anyone appear around arrive artist assume attack author become
  before behind better beyond budget camera career center chance change charge choice choose
  church common couple course create debate decade decide degree design detail dinner doctor
  during effect effort either energy enough entire expect expert factor family father figure
  finish follow forget former friend future garden ground growth happen health impact indeed
  inside itself lawyer leader letter likely listen little manage market matter member memory
  method middle minute modern moment mother myself nation nature nearly notice number office
  option others parent people person player police policy pretty public rather really reason
  recent record reduce region relate remain report result return reveal school season second
  senior series should simple simply single sister social source speech spring street strong
  suffer summer system theory though threat toward travel weight window within wonder worker
  writer ability account address against already another article because believe benefit between
  billion brother capital central century certain citizen clearly college company compare concern
  contain control country culture current defense despite develop discuss economy evening exactly
  example explain federal feeling finally foreign forward general herself himself history however
  hundred husband imagine improve include instead involve kitchen machine manager measure medical
  meeting mention message million mission morning natural network nothing officer outside partner
  pattern perform perhaps picture popular prepare present prevent process produce product program
  project protect provide purpose quality quickly reality realize receive reflect require respond
  science section serious service several similar society soldier someone special station student
  subject success suggest support surface teacher thought through tonight trouble usually various
  western whether without activity actually although American analysis anything approach attorney
  audience behavior building business campaign computer Congress consider consumer continue
  cultural customer daughter decision Democrat describe director discover economic election
  employee everyone evidence hospital identify increase indicate industry interest language
  magazine maintain majority marriage material military movement national official painting
  personal physical politics position positive possible practice pressure probably property
  question recently remember research resource response security shoulder somebody southern
  specific standard strategy suddenly thousand together training whatever yourself according
  agreement attention authority available beautiful candidate certainly challenge character
  community condition determine different difficult direction education establish everybody
  executive financial important including interview knowledge necessary newspaper operation
  political president professor recognize religious represent scientist situation something
  sometimes statement structure treatment collection commercial conference democratic difference
  discussion especially everything experience generation government individual investment
  management particular population production Republican successful technology television
  themselves throughout understand development environment information institution interesting
  opportunity participant performance significant traditional organization particularly
  professional relationship environmental international administration responsibility"

/-- The words of the text. -/
def words : List String := (CharRanges.pieces text.toList).map String.ofList

end Vocabulary

end Specimen
