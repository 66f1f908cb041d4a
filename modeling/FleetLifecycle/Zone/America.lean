import FleetLifecycle.Zone.Basic

/-!
# Zones of the Americas

Offsets of zones in the Americas, from local mean time to the end of 2099.  Each change holds
the second from which it counts and the new offset in seconds east of UTC.
-/

namespace FleetLifecycle
namespace Zone

def newYork : Zone :=
  ⟨"America/New_York", -17762, [
    ⟨-2717650800, -18000⟩, ⟨-1633280400, -14400⟩, ⟨-1615140000, -18000⟩, ⟨-1601830800, -14400⟩,
    ⟨-1583690400, -18000⟩, ⟨-1570381200, -14400⟩, ⟨-1551636000, -18000⟩, ⟨-1536512400, -14400⟩,
    ⟨-1523210400, -18000⟩, ⟨-1504458000, -14400⟩, ⟨-1491760800, -18000⟩, ⟨-1473008400, -14400⟩,
    ⟨-1459706400, -18000⟩, ⟨-1441558800, -14400⟩, ⟨-1428256800, -18000⟩, ⟨-1410109200, -14400⟩,
    ⟨-1396807200, -18000⟩, ⟨-1378659600, -14400⟩, ⟨-1365357600, -18000⟩, ⟨-1347210000, -14400⟩,
    ⟨-1333908000, -18000⟩, ⟨-1315155600, -14400⟩, ⟨-1301853600, -18000⟩, ⟨-1283706000, -14400⟩,
    ⟨-1270404000, -18000⟩, ⟨-1252256400, -14400⟩, ⟨-1238954400, -18000⟩, ⟨-1220806800, -14400⟩,
    ⟨-1207504800, -18000⟩, ⟨-1189357200, -14400⟩, ⟨-1176055200, -18000⟩, ⟨-1157302800, -14400⟩,
    ⟨-1144605600, -18000⟩, ⟨-1125853200, -14400⟩, ⟨-1112551200, -18000⟩, ⟨-1094403600, -14400⟩,
    ⟨-1081101600, -18000⟩, ⟨-1062954000, -14400⟩, ⟨-1049652000, -18000⟩, ⟨-1031504400, -14400⟩,
    ⟨-1018202400, -18000⟩, ⟨-1000054800, -14400⟩, ⟨-986752800, -18000⟩, ⟨-968000400, -14400⟩,
    ⟨-955303200, -18000⟩, ⟨-936550800, -14400⟩, ⟨-923248800, -18000⟩, ⟨-905101200, -14400⟩,
    ⟨-891799200, -18000⟩, ⟨-880218000, -14400⟩, ⟨-765396000, -18000⟩, ⟨-747248400, -14400⟩,
    ⟨-733946400, -18000⟩, ⟨-715798800, -14400⟩, ⟨-702496800, -18000⟩, ⟨-684349200, -14400⟩,
    ⟨-671047200, -18000⟩, ⟨-652899600, -14400⟩, ⟨-639597600, -18000⟩, ⟨-620845200, -14400⟩,
    ⟨-608148000, -18000⟩, ⟨-589395600, -14400⟩, ⟨-576093600, -18000⟩, ⟨-557946000, -14400⟩,
    ⟨-544644000, -18000⟩, ⟨-526496400, -14400⟩, ⟨-513194400, -18000⟩, ⟨-495046800, -14400⟩,
    ⟨-481744800, -18000⟩, ⟨-463597200, -14400⟩, ⟨-447271200, -18000⟩, ⟨-431542800, -14400⟩,
    ⟨-415821600, -18000⟩, ⟨-400093200, -14400⟩, ⟨-384372000, -18000⟩, ⟨-368643600, -14400⟩,
    ⟨-352922400, -18000⟩, ⟨-337194000, -14400⟩, ⟨-321472800, -18000⟩, ⟨-305744400, -14400⟩,
    ⟨-289418400, -18000⟩, ⟨-273690000, -14400⟩, ⟨-257968800, -18000⟩, ⟨-242240400, -14400⟩,
    ⟨-226519200, -18000⟩, ⟨-210790800, -14400⟩, ⟨-195069600, -18000⟩, ⟨-179341200, -14400⟩,
    ⟨-163620000, -18000⟩, ⟨-147891600, -14400⟩, ⟨-131565600, -18000⟩, ⟨-116442000, -14400⟩,
    ⟨-100116000, -18000⟩, ⟨-84387600, -14400⟩, ⟨-68666400, -18000⟩, ⟨-52938000, -14400⟩,
    ⟨-37216800, -18000⟩, ⟨-21488400, -14400⟩, ⟨-5767200, -18000⟩, ⟨9961200, -14400⟩,
    ⟨25682400, -18000⟩, ⟨41410800, -14400⟩, ⟨57736800, -18000⟩, ⟨73465200, -14400⟩,
    ⟨89186400, -18000⟩, ⟨104914800, -14400⟩, ⟨120636000, -18000⟩, ⟨126687600, -14400⟩,
    ⟨152085600, -18000⟩, ⟨162370800, -14400⟩, ⟨183535200, -18000⟩, ⟨199263600, -14400⟩,
    ⟨215589600, -18000⟩, ⟨230713200, -14400⟩, ⟨247039200, -18000⟩, ⟨262767600, -14400⟩,
    ⟨278488800, -18000⟩, ⟨294217200, -14400⟩, ⟨309938400, -18000⟩, ⟨325666800, -14400⟩,
    ⟨341388000, -18000⟩, ⟨357116400, -14400⟩, ⟨372837600, -18000⟩, ⟨388566000, -14400⟩,
    ⟨404892000, -18000⟩, ⟨420015600, -14400⟩, ⟨436341600, -18000⟩, ⟨452070000, -14400⟩,
    ⟨467791200, -18000⟩, ⟨483519600, -14400⟩, ⟨499240800, -18000⟩, ⟨514969200, -14400⟩,
    ⟨530690400, -18000⟩, ⟨544604400, -14400⟩, ⟨562140000, -18000⟩, ⟨576054000, -14400⟩,
    ⟨594194400, -18000⟩, ⟨607503600, -14400⟩, ⟨625644000, -18000⟩, ⟨638953200, -14400⟩,
    ⟨657093600, -18000⟩, ⟨671007600, -14400⟩, ⟨688543200, -18000⟩, ⟨702457200, -14400⟩,
    ⟨719992800, -18000⟩, ⟨733906800, -14400⟩, ⟨752047200, -18000⟩, ⟨765356400, -14400⟩,
    ⟨783496800, -18000⟩, ⟨796806000, -14400⟩, ⟨814946400, -18000⟩, ⟨828860400, -14400⟩,
    ⟨846396000, -18000⟩, ⟨860310000, -14400⟩, ⟨877845600, -18000⟩, ⟨891759600, -14400⟩,
    ⟨909295200, -18000⟩, ⟨923209200, -14400⟩, ⟨941349600, -18000⟩, ⟨954658800, -14400⟩,
    ⟨972799200, -18000⟩, ⟨986108400, -14400⟩, ⟨1004248800, -18000⟩, ⟨1018162800, -14400⟩,
    ⟨1035698400, -18000⟩, ⟨1049612400, -14400⟩, ⟨1067148000, -18000⟩, ⟨1081062000, -14400⟩,
    ⟨1099202400, -18000⟩, ⟨1112511600, -14400⟩, ⟨1130652000, -18000⟩, ⟨1143961200, -14400⟩,
    ⟨1162101600, -18000⟩, ⟨1173596400, -14400⟩, ⟨1194156000, -18000⟩, ⟨1205046000, -14400⟩,
    ⟨1225605600, -18000⟩, ⟨1236495600, -14400⟩, ⟨1257055200, -18000⟩, ⟨1268550000, -14400⟩,
    ⟨1289109600, -18000⟩, ⟨1299999600, -14400⟩, ⟨1320559200, -18000⟩, ⟨1331449200, -14400⟩,
    ⟨1352008800, -18000⟩, ⟨1362898800, -14400⟩, ⟨1383458400, -18000⟩, ⟨1394348400, -14400⟩,
    ⟨1414908000, -18000⟩, ⟨1425798000, -14400⟩, ⟨1446357600, -18000⟩, ⟨1457852400, -14400⟩,
    ⟨1478412000, -18000⟩, ⟨1489302000, -14400⟩, ⟨1509861600, -18000⟩, ⟨1520751600, -14400⟩,
    ⟨1541311200, -18000⟩, ⟨1552201200, -14400⟩, ⟨1572760800, -18000⟩, ⟨1583650800, -14400⟩,
    ⟨1604210400, -18000⟩, ⟨1615705200, -14400⟩, ⟨1636264800, -18000⟩, ⟨1647154800, -14400⟩,
    ⟨1667714400, -18000⟩, ⟨1678604400, -14400⟩, ⟨1699164000, -18000⟩, ⟨1710054000, -14400⟩,
    ⟨1730613600, -18000⟩, ⟨1741503600, -14400⟩, ⟨1762063200, -18000⟩, ⟨1772953200, -14400⟩,
    ⟨1793512800, -18000⟩, ⟨1805007600, -14400⟩, ⟨1825567200, -18000⟩, ⟨1836457200, -14400⟩,
    ⟨1857016800, -18000⟩, ⟨1867906800, -14400⟩, ⟨1888466400, -18000⟩, ⟨1899356400, -14400⟩,
    ⟨1919916000, -18000⟩, ⟨1930806000, -14400⟩, ⟨1951365600, -18000⟩, ⟨1962860400, -14400⟩,
    ⟨1983420000, -18000⟩, ⟨1994310000, -14400⟩, ⟨2014869600, -18000⟩, ⟨2025759600, -14400⟩,
    ⟨2046319200, -18000⟩, ⟨2057209200, -14400⟩, ⟨2077768800, -18000⟩, ⟨2088658800, -14400⟩,
    ⟨2109218400, -18000⟩, ⟨2120108400, -14400⟩, ⟨2140668000, -18000⟩, ⟨2152162800, -14400⟩,
    ⟨2172722400, -18000⟩, ⟨2183612400, -14400⟩, ⟨2204172000, -18000⟩, ⟨2215062000, -14400⟩,
    ⟨2235621600, -18000⟩, ⟨2246511600, -14400⟩, ⟨2267071200, -18000⟩, ⟨2277961200, -14400⟩,
    ⟨2298520800, -18000⟩, ⟨2309410800, -14400⟩, ⟨2329970400, -18000⟩, ⟨2341465200, -14400⟩,
    ⟨2362024800, -18000⟩, ⟨2372914800, -14400⟩, ⟨2393474400, -18000⟩, ⟨2404364400, -14400⟩,
    ⟨2424924000, -18000⟩, ⟨2435814000, -14400⟩, ⟨2456373600, -18000⟩, ⟨2467263600, -14400⟩,
    ⟨2487823200, -18000⟩, ⟨2499318000, -14400⟩, ⟨2519877600, -18000⟩, ⟨2530767600, -14400⟩,
    ⟨2551327200, -18000⟩, ⟨2562217200, -14400⟩, ⟨2582776800, -18000⟩, ⟨2593666800, -14400⟩,
    ⟨2614226400, -18000⟩, ⟨2625116400, -14400⟩, ⟨2645676000, -18000⟩, ⟨2656566000, -14400⟩,
    ⟨2677125600, -18000⟩, ⟨2688620400, -14400⟩, ⟨2709180000, -18000⟩, ⟨2720070000, -14400⟩,
    ⟨2740629600, -18000⟩, ⟨2751519600, -14400⟩, ⟨2772079200, -18000⟩, ⟨2782969200, -14400⟩,
    ⟨2803528800, -18000⟩, ⟨2814418800, -14400⟩, ⟨2834978400, -18000⟩, ⟨2846473200, -14400⟩,
    ⟨2867032800, -18000⟩, ⟨2877922800, -14400⟩, ⟨2898482400, -18000⟩, ⟨2909372400, -14400⟩,
    ⟨2929932000, -18000⟩, ⟨2940822000, -14400⟩, ⟨2961381600, -18000⟩, ⟨2972271600, -14400⟩,
    ⟨2992831200, -18000⟩, ⟨3003721200, -14400⟩, ⟨3024280800, -18000⟩, ⟨3035775600, -14400⟩,
    ⟨3056335200, -18000⟩, ⟨3067225200, -14400⟩, ⟨3087784800, -18000⟩, ⟨3098674800, -14400⟩,
    ⟨3119234400, -18000⟩, ⟨3130124400, -14400⟩, ⟨3150684000, -18000⟩, ⟨3161574000, -14400⟩,
    ⟨3182133600, -18000⟩, ⟨3193023600, -14400⟩, ⟨3213583200, -18000⟩, ⟨3225078000, -14400⟩,
    ⟨3245637600, -18000⟩, ⟨3256527600, -14400⟩, ⟨3277087200, -18000⟩, ⟨3287977200, -14400⟩,
    ⟨3308536800, -18000⟩, ⟨3319426800, -14400⟩, ⟨3339986400, -18000⟩, ⟨3350876400, -14400⟩,
    ⟨3371436000, -18000⟩, ⟨3382930800, -14400⟩, ⟨3403490400, -18000⟩, ⟨3414380400, -14400⟩,
    ⟨3434940000, -18000⟩, ⟨3445830000, -14400⟩, ⟨3466389600, -18000⟩, ⟨3477279600, -14400⟩,
    ⟨3497839200, -18000⟩, ⟨3508729200, -14400⟩, ⟨3529288800, -18000⟩, ⟨3540178800, -14400⟩,
    ⟨3560738400, -18000⟩, ⟨3572233200, -14400⟩, ⟨3592792800, -18000⟩, ⟨3603682800, -14400⟩,
    ⟨3624242400, -18000⟩, ⟨3635132400, -14400⟩, ⟨3655692000, -18000⟩, ⟨3666582000, -14400⟩,
    ⟨3687141600, -18000⟩, ⟨3698031600, -14400⟩, ⟨3718591200, -18000⟩, ⟨3730086000, -14400⟩,
    ⟨3750645600, -18000⟩, ⟨3761535600, -14400⟩, ⟨3782095200, -18000⟩, ⟨3792985200, -14400⟩,
    ⟨3813544800, -18000⟩, ⟨3824434800, -14400⟩, ⟨3844994400, -18000⟩, ⟨3855884400, -14400⟩,
    ⟨3876444000, -18000⟩, ⟨3887334000, -14400⟩, ⟨3907893600, -18000⟩, ⟨3919388400, -14400⟩,
    ⟨3939948000, -18000⟩, ⟨3950838000, -14400⟩, ⟨3971397600, -18000⟩, ⟨3982287600, -14400⟩,
    ⟨4002847200, -18000⟩, ⟨4013737200, -14400⟩, ⟨4034296800, -18000⟩, ⟨4045186800, -14400⟩,
    ⟨4065746400, -18000⟩, ⟨4076636400, -14400⟩, ⟨4097196000, -18000⟩]⟩

def losAngeles : Zone :=
  ⟨"US/Pacific", -28378, [
    ⟨-2717640000, -28800⟩, ⟨-1633269600, -25200⟩, ⟨-1615129200, -28800⟩, ⟨-1601820000, -25200⟩,
    ⟨-1583679600, -28800⟩, ⟨-880207200, -25200⟩, ⟨-765385200, -28800⟩, ⟨-687967140, -25200⟩,
    ⟨-662655600, -28800⟩, ⟨-620838000, -25200⟩, ⟨-608137200, -28800⟩, ⟨-589388400, -25200⟩,
    ⟨-576082800, -28800⟩, ⟨-557938800, -25200⟩, ⟨-544633200, -28800⟩, ⟨-526489200, -25200⟩,
    ⟨-513183600, -28800⟩, ⟨-495039600, -25200⟩, ⟨-481734000, -28800⟩, ⟨-463590000, -25200⟩,
    ⟨-450284400, -28800⟩, ⟨-431535600, -25200⟩, ⟨-418230000, -28800⟩, ⟨-400086000, -25200⟩,
    ⟨-386780400, -28800⟩, ⟨-368636400, -25200⟩, ⟨-355330800, -28800⟩, ⟨-337186800, -25200⟩,
    ⟨-323881200, -28800⟩, ⟨-305737200, -25200⟩, ⟨-292431600, -28800⟩, ⟨-273682800, -25200⟩,
    ⟨-260982000, -28800⟩, ⟨-242233200, -25200⟩, ⟨-226508400, -28800⟩, ⟨-210783600, -25200⟩,
    ⟨-195058800, -28800⟩, ⟨-179334000, -25200⟩, ⟨-163609200, -28800⟩, ⟨-147884400, -25200⟩,
    ⟨-131554800, -28800⟩, ⟨-116434800, -25200⟩, ⟨-100105200, -28800⟩, ⟨-84376800, -25200⟩,
    ⟨-68655600, -28800⟩, ⟨-52927200, -25200⟩, ⟨-37206000, -28800⟩, ⟨-21477600, -25200⟩,
    ⟨-5756400, -28800⟩, ⟨9972000, -25200⟩, ⟨25693200, -28800⟩, ⟨41421600, -25200⟩,
    ⟨57747600, -28800⟩, ⟨73476000, -25200⟩, ⟨89197200, -28800⟩, ⟨104925600, -25200⟩,
    ⟨120646800, -28800⟩, ⟨126698400, -25200⟩, ⟨152096400, -28800⟩, ⟨162381600, -25200⟩,
    ⟨183546000, -28800⟩, ⟨199274400, -25200⟩, ⟨215600400, -28800⟩, ⟨230724000, -25200⟩,
    ⟨247050000, -28800⟩, ⟨262778400, -25200⟩, ⟨278499600, -28800⟩, ⟨294228000, -25200⟩,
    ⟨309949200, -28800⟩, ⟨325677600, -25200⟩, ⟨341398800, -28800⟩, ⟨357127200, -25200⟩,
    ⟨372848400, -28800⟩, ⟨388576800, -25200⟩, ⟨404902800, -28800⟩, ⟨420026400, -25200⟩,
    ⟨436352400, -28800⟩, ⟨452080800, -25200⟩, ⟨467802000, -28800⟩, ⟨483530400, -25200⟩,
    ⟨499251600, -28800⟩, ⟨514980000, -25200⟩, ⟨530701200, -28800⟩, ⟨544615200, -25200⟩,
    ⟨562150800, -28800⟩, ⟨576064800, -25200⟩, ⟨594205200, -28800⟩, ⟨607514400, -25200⟩,
    ⟨625654800, -28800⟩, ⟨638964000, -25200⟩, ⟨657104400, -28800⟩, ⟨671018400, -25200⟩,
    ⟨688554000, -28800⟩, ⟨702468000, -25200⟩, ⟨720003600, -28800⟩, ⟨733917600, -25200⟩,
    ⟨752058000, -28800⟩, ⟨765367200, -25200⟩, ⟨783507600, -28800⟩, ⟨796816800, -25200⟩,
    ⟨814957200, -28800⟩, ⟨828871200, -25200⟩, ⟨846406800, -28800⟩, ⟨860320800, -25200⟩,
    ⟨877856400, -28800⟩, ⟨891770400, -25200⟩, ⟨909306000, -28800⟩, ⟨923220000, -25200⟩,
    ⟨941360400, -28800⟩, ⟨954669600, -25200⟩, ⟨972810000, -28800⟩, ⟨986119200, -25200⟩,
    ⟨1004259600, -28800⟩, ⟨1018173600, -25200⟩, ⟨1035709200, -28800⟩, ⟨1049623200, -25200⟩,
    ⟨1067158800, -28800⟩, ⟨1081072800, -25200⟩, ⟨1099213200, -28800⟩, ⟨1112522400, -25200⟩,
    ⟨1130662800, -28800⟩, ⟨1143972000, -25200⟩, ⟨1162112400, -28800⟩, ⟨1173607200, -25200⟩,
    ⟨1194166800, -28800⟩, ⟨1205056800, -25200⟩, ⟨1225616400, -28800⟩, ⟨1236506400, -25200⟩,
    ⟨1257066000, -28800⟩, ⟨1268560800, -25200⟩, ⟨1289120400, -28800⟩, ⟨1300010400, -25200⟩,
    ⟨1320570000, -28800⟩, ⟨1331460000, -25200⟩, ⟨1352019600, -28800⟩, ⟨1362909600, -25200⟩,
    ⟨1383469200, -28800⟩, ⟨1394359200, -25200⟩, ⟨1414918800, -28800⟩, ⟨1425808800, -25200⟩,
    ⟨1446368400, -28800⟩, ⟨1457863200, -25200⟩, ⟨1478422800, -28800⟩, ⟨1489312800, -25200⟩,
    ⟨1509872400, -28800⟩, ⟨1520762400, -25200⟩, ⟨1541322000, -28800⟩, ⟨1552212000, -25200⟩,
    ⟨1572771600, -28800⟩, ⟨1583661600, -25200⟩, ⟨1604221200, -28800⟩, ⟨1615716000, -25200⟩,
    ⟨1636275600, -28800⟩, ⟨1647165600, -25200⟩, ⟨1667725200, -28800⟩, ⟨1678615200, -25200⟩,
    ⟨1699174800, -28800⟩, ⟨1710064800, -25200⟩, ⟨1730624400, -28800⟩, ⟨1741514400, -25200⟩,
    ⟨1762074000, -28800⟩, ⟨1772964000, -25200⟩, ⟨1793523600, -28800⟩, ⟨1805018400, -25200⟩,
    ⟨1825578000, -28800⟩, ⟨1836468000, -25200⟩, ⟨1857027600, -28800⟩, ⟨1867917600, -25200⟩,
    ⟨1888477200, -28800⟩, ⟨1899367200, -25200⟩, ⟨1919926800, -28800⟩, ⟨1930816800, -25200⟩,
    ⟨1951376400, -28800⟩, ⟨1962871200, -25200⟩, ⟨1983430800, -28800⟩, ⟨1994320800, -25200⟩,
    ⟨2014880400, -28800⟩, ⟨2025770400, -25200⟩, ⟨2046330000, -28800⟩, ⟨2057220000, -25200⟩,
    ⟨2077779600, -28800⟩, ⟨2088669600, -25200⟩, ⟨2109229200, -28800⟩, ⟨2120119200, -25200⟩,
    ⟨2140678800, -28800⟩, ⟨2152173600, -25200⟩, ⟨2172733200, -28800⟩, ⟨2183623200, -25200⟩,
    ⟨2204182800, -28800⟩, ⟨2215072800, -25200⟩, ⟨2235632400, -28800⟩, ⟨2246522400, -25200⟩,
    ⟨2267082000, -28800⟩, ⟨2277972000, -25200⟩, ⟨2298531600, -28800⟩, ⟨2309421600, -25200⟩,
    ⟨2329981200, -28800⟩, ⟨2341476000, -25200⟩, ⟨2362035600, -28800⟩, ⟨2372925600, -25200⟩,
    ⟨2393485200, -28800⟩, ⟨2404375200, -25200⟩, ⟨2424934800, -28800⟩, ⟨2435824800, -25200⟩,
    ⟨2456384400, -28800⟩, ⟨2467274400, -25200⟩, ⟨2487834000, -28800⟩, ⟨2499328800, -25200⟩,
    ⟨2519888400, -28800⟩, ⟨2530778400, -25200⟩, ⟨2551338000, -28800⟩, ⟨2562228000, -25200⟩,
    ⟨2582787600, -28800⟩, ⟨2593677600, -25200⟩, ⟨2614237200, -28800⟩, ⟨2625127200, -25200⟩,
    ⟨2645686800, -28800⟩, ⟨2656576800, -25200⟩, ⟨2677136400, -28800⟩, ⟨2688631200, -25200⟩,
    ⟨2709190800, -28800⟩, ⟨2720080800, -25200⟩, ⟨2740640400, -28800⟩, ⟨2751530400, -25200⟩,
    ⟨2772090000, -28800⟩, ⟨2782980000, -25200⟩, ⟨2803539600, -28800⟩, ⟨2814429600, -25200⟩,
    ⟨2834989200, -28800⟩, ⟨2846484000, -25200⟩, ⟨2867043600, -28800⟩, ⟨2877933600, -25200⟩,
    ⟨2898493200, -28800⟩, ⟨2909383200, -25200⟩, ⟨2929942800, -28800⟩, ⟨2940832800, -25200⟩,
    ⟨2961392400, -28800⟩, ⟨2972282400, -25200⟩, ⟨2992842000, -28800⟩, ⟨3003732000, -25200⟩,
    ⟨3024291600, -28800⟩, ⟨3035786400, -25200⟩, ⟨3056346000, -28800⟩, ⟨3067236000, -25200⟩,
    ⟨3087795600, -28800⟩, ⟨3098685600, -25200⟩, ⟨3119245200, -28800⟩, ⟨3130135200, -25200⟩,
    ⟨3150694800, -28800⟩, ⟨3161584800, -25200⟩, ⟨3182144400, -28800⟩, ⟨3193034400, -25200⟩,
    ⟨3213594000, -28800⟩, ⟨3225088800, -25200⟩, ⟨3245648400, -28800⟩, ⟨3256538400, -25200⟩,
    ⟨3277098000, -28800⟩, ⟨3287988000, -25200⟩, ⟨3308547600, -28800⟩, ⟨3319437600, -25200⟩,
    ⟨3339997200, -28800⟩, ⟨3350887200, -25200⟩, ⟨3371446800, -28800⟩, ⟨3382941600, -25200⟩,
    ⟨3403501200, -28800⟩, ⟨3414391200, -25200⟩, ⟨3434950800, -28800⟩, ⟨3445840800, -25200⟩,
    ⟨3466400400, -28800⟩, ⟨3477290400, -25200⟩, ⟨3497850000, -28800⟩, ⟨3508740000, -25200⟩,
    ⟨3529299600, -28800⟩, ⟨3540189600, -25200⟩, ⟨3560749200, -28800⟩, ⟨3572244000, -25200⟩,
    ⟨3592803600, -28800⟩, ⟨3603693600, -25200⟩, ⟨3624253200, -28800⟩, ⟨3635143200, -25200⟩,
    ⟨3655702800, -28800⟩, ⟨3666592800, -25200⟩, ⟨3687152400, -28800⟩, ⟨3698042400, -25200⟩,
    ⟨3718602000, -28800⟩, ⟨3730096800, -25200⟩, ⟨3750656400, -28800⟩, ⟨3761546400, -25200⟩,
    ⟨3782106000, -28800⟩, ⟨3792996000, -25200⟩, ⟨3813555600, -28800⟩, ⟨3824445600, -25200⟩,
    ⟨3845005200, -28800⟩, ⟨3855895200, -25200⟩, ⟨3876454800, -28800⟩, ⟨3887344800, -25200⟩,
    ⟨3907904400, -28800⟩, ⟨3919399200, -25200⟩, ⟨3939958800, -28800⟩, ⟨3950848800, -25200⟩,
    ⟨3971408400, -28800⟩, ⟨3982298400, -25200⟩, ⟨4002858000, -28800⟩, ⟨4013748000, -25200⟩,
    ⟨4034307600, -28800⟩, ⟨4045197600, -25200⟩, ⟨4065757200, -28800⟩, ⟨4076647200, -25200⟩,
    ⟨4097206800, -28800⟩]⟩

def stJohns : Zone :=
  ⟨"America/St_Johns", -12652, [
    ⟨-1664130548, -9052⟩, ⟨-1650137348, -12652⟩, ⟨-1632076148, -9052⟩, ⟨-1615145348, -12652⟩,
    ⟨-1598650148, -9052⟩, ⟨-1590100148, -12652⟩, ⟨-1567286948, -9052⟩, ⟨-1551565748, -12652⟩,
    ⟨-1535837348, -9052⟩, ⟨-1520116148, -12652⟩, ⟨-1503782948, -9052⟩, ⟨-1488666548, -12652⟩,
    ⟨-1472333348, -9052⟩, ⟨-1457216948, -12652⟩, ⟨-1440883748, -9052⟩, ⟨-1425767348, -12652⟩,
    ⟨-1409434148, -9052⟩, ⟨-1394317748, -12652⟩, ⟨-1377984548, -9052⟩, ⟨-1362263348, -12652⟩,
    ⟨-1346534948, -9052⟩, ⟨-1330813748, -12652⟩, ⟨-1314480548, -9052⟩, ⟨-1299364148, -12652⟩,
    ⟨-1283030948, -9052⟩, ⟨-1267914548, -12652⟩, ⟨-1251581348, -9052⟩, ⟨-1236464948, -12652⟩,
    ⟨-1220131748, -9052⟩, ⟨-1205015348, -12652⟩, ⟨-1188682148, -9052⟩, ⟨-1172960948, -12652⟩,
    ⟨-1156627748, -9052⟩, ⟨-1141511348, -12652⟩, ⟨-1125178148, -9052⟩, ⟨-1110061748, -12652⟩,
    ⟨-1096921748, -12600⟩, ⟨-1093728600, -9000⟩, ⟨-1078612200, -12600⟩, ⟨-1061670600, -9000⟩,
    ⟨-1048973400, -12600⟩, ⟨-1030221000, -9000⟩, ⟨-1017523800, -12600⟩, ⟨-998771400, -9000⟩,
    ⟨-986074200, -12600⟩, ⟨-966717000, -9000⟩, ⟨-954624600, -12600⟩, ⟨-935267400, -9000⟩,
    ⟨-922570200, -12600⟩, ⟨-903817800, -9000⟩, ⟨-891120600, -12600⟩, ⟨-872368200, -9000⟩,
    ⟨-765401400, -12600⟩, ⟨-746044200, -9000⟩, ⟨-733347000, -12600⟩, ⟨-714594600, -9000⟩,
    ⟨-701897400, -12600⟩, ⟨-683145000, -9000⟩, ⟨-670447800, -12600⟩, ⟨-651695400, -9000⟩,
    ⟨-638998200, -12600⟩, ⟨-619641000, -9000⟩, ⟨-606943800, -12600⟩, ⟨-589401000, -9000⟩,
    ⟨-576099000, -12600⟩, ⟨-557951400, -9000⟩, ⟨-544649400, -12600⟩, ⟨-526501800, -9000⟩,
    ⟨-513199800, -12600⟩, ⟨-495052200, -9000⟩, ⟨-481750200, -12600⟩, ⟨-463602600, -9000⟩,
    ⟨-450300600, -12600⟩, ⟨-431548200, -9000⟩, ⟨-418246200, -12600⟩, ⟨-400098600, -9000⟩,
    ⟨-386796600, -12600⟩, ⟨-368649000, -9000⟩, ⟨-355347000, -12600⟩, ⟨-337199400, -9000⟩,
    ⟨-323897400, -12600⟩, ⟨-305749800, -9000⟩, ⟨-289423800, -12600⟩, ⟨-273695400, -9000⟩,
    ⟨-257974200, -12600⟩, ⟨-242245800, -9000⟩, ⟨-226524600, -12600⟩, ⟨-210796200, -9000⟩,
    ⟨-195075000, -12600⟩, ⟨-179346600, -9000⟩, ⟨-163625400, -12600⟩, ⟨-147897000, -9000⟩,
    ⟨-131571000, -12600⟩, ⟨-116447400, -9000⟩, ⟨-100121400, -12600⟩, ⟨-84393000, -9000⟩,
    ⟨-68671800, -12600⟩, ⟨-52943400, -9000⟩, ⟨-37222200, -12600⟩, ⟨-21493800, -9000⟩,
    ⟨-5772600, -12600⟩, ⟨9955800, -9000⟩, ⟨25677000, -12600⟩, ⟨41405400, -9000⟩,
    ⟨57731400, -12600⟩, ⟨73459800, -9000⟩, ⟨89181000, -12600⟩, ⟨104909400, -9000⟩,
    ⟨120630600, -12600⟩, ⟨136359000, -9000⟩, ⟨152080200, -12600⟩, ⟨167808600, -9000⟩,
    ⟨183529800, -12600⟩, ⟨199258200, -9000⟩, ⟨215584200, -12600⟩, ⟨230707800, -9000⟩,
    ⟨247033800, -12600⟩, ⟨262762200, -9000⟩, ⟨278483400, -12600⟩, ⟨294211800, -9000⟩,
    ⟨309933000, -12600⟩, ⟨325661400, -9000⟩, ⟨341382600, -12600⟩, ⟨357111000, -9000⟩,
    ⟨372832200, -12600⟩, ⟨388560600, -9000⟩, ⟨404886600, -12600⟩, ⟨420010200, -9000⟩,
    ⟨436336200, -12600⟩, ⟨452064600, -9000⟩, ⟨467785800, -12600⟩, ⟨483514200, -9000⟩,
    ⟨499235400, -12600⟩, ⟨514963800, -9000⟩, ⟨530685000, -12600⟩, ⟨544591860, -9000⟩,
    ⟨562127460, -12600⟩, ⟨576041460, -5400⟩, ⟨594178260, -12600⟩, ⟨607491060, -9000⟩,
    ⟨625631460, -12600⟩, ⟨638940660, -9000⟩, ⟨657081060, -12600⟩, ⟨670995060, -9000⟩,
    ⟨688530660, -12600⟩, ⟨702444660, -9000⟩, ⟨719980260, -12600⟩, ⟨733894260, -9000⟩,
    ⟨752034660, -12600⟩, ⟨765343860, -9000⟩, ⟨783484260, -12600⟩, ⟨796793460, -9000⟩,
    ⟨814933860, -12600⟩, ⟨828847860, -9000⟩, ⟨846383460, -12600⟩, ⟨860297460, -9000⟩,
    ⟨877833060, -12600⟩, ⟨891747060, -9000⟩, ⟨909282660, -12600⟩, ⟨923196660, -9000⟩,
    ⟨941337060, -12600⟩, ⟨954646260, -9000⟩, ⟨972786660, -12600⟩, ⟨986095860, -9000⟩,
    ⟨1004236260, -12600⟩, ⟨1018150260, -9000⟩, ⟨1035685860, -12600⟩, ⟨1049599860, -9000⟩,
    ⟨1067135460, -12600⟩, ⟨1081049460, -9000⟩, ⟨1099189860, -12600⟩, ⟨1112499060, -9000⟩,
    ⟨1130639460, -12600⟩, ⟨1143948660, -9000⟩, ⟨1162089060, -12600⟩, ⟨1173583860, -9000⟩,
    ⟨1194143460, -12600⟩, ⟨1205033460, -9000⟩, ⟨1225593060, -12600⟩, ⟨1236483060, -9000⟩,
    ⟨1257042660, -12600⟩, ⟨1268537460, -9000⟩, ⟨1289097060, -12600⟩, ⟨1299987060, -9000⟩,
    ⟨1320553800, -12600⟩, ⟨1331443800, -9000⟩, ⟨1352003400, -12600⟩, ⟨1362893400, -9000⟩,
    ⟨1383453000, -12600⟩, ⟨1394343000, -9000⟩, ⟨1414902600, -12600⟩, ⟨1425792600, -9000⟩,
    ⟨1446352200, -12600⟩, ⟨1457847000, -9000⟩, ⟨1478406600, -12600⟩, ⟨1489296600, -9000⟩,
    ⟨1509856200, -12600⟩, ⟨1520746200, -9000⟩, ⟨1541305800, -12600⟩, ⟨1552195800, -9000⟩,
    ⟨1572755400, -12600⟩, ⟨1583645400, -9000⟩, ⟨1604205000, -12600⟩, ⟨1615699800, -9000⟩,
    ⟨1636259400, -12600⟩, ⟨1647149400, -9000⟩, ⟨1667709000, -12600⟩, ⟨1678599000, -9000⟩,
    ⟨1699158600, -12600⟩, ⟨1710048600, -9000⟩, ⟨1730608200, -12600⟩, ⟨1741498200, -9000⟩,
    ⟨1762057800, -12600⟩, ⟨1772947800, -9000⟩, ⟨1793507400, -12600⟩, ⟨1805002200, -9000⟩,
    ⟨1825561800, -12600⟩, ⟨1836451800, -9000⟩, ⟨1857011400, -12600⟩, ⟨1867901400, -9000⟩,
    ⟨1888461000, -12600⟩, ⟨1899351000, -9000⟩, ⟨1919910600, -12600⟩, ⟨1930800600, -9000⟩,
    ⟨1951360200, -12600⟩, ⟨1962855000, -9000⟩, ⟨1983414600, -12600⟩, ⟨1994304600, -9000⟩,
    ⟨2014864200, -12600⟩, ⟨2025754200, -9000⟩, ⟨2046313800, -12600⟩, ⟨2057203800, -9000⟩,
    ⟨2077763400, -12600⟩, ⟨2088653400, -9000⟩, ⟨2109213000, -12600⟩, ⟨2120103000, -9000⟩,
    ⟨2140662600, -12600⟩, ⟨2152157400, -9000⟩, ⟨2172717000, -12600⟩, ⟨2183607000, -9000⟩,
    ⟨2204166600, -12600⟩, ⟨2215056600, -9000⟩, ⟨2235616200, -12600⟩, ⟨2246506200, -9000⟩,
    ⟨2267065800, -12600⟩, ⟨2277955800, -9000⟩, ⟨2298515400, -12600⟩, ⟨2309405400, -9000⟩,
    ⟨2329965000, -12600⟩, ⟨2341459800, -9000⟩, ⟨2362019400, -12600⟩, ⟨2372909400, -9000⟩,
    ⟨2393469000, -12600⟩, ⟨2404359000, -9000⟩, ⟨2424918600, -12600⟩, ⟨2435808600, -9000⟩,
    ⟨2456368200, -12600⟩, ⟨2467258200, -9000⟩, ⟨2487817800, -12600⟩, ⟨2499312600, -9000⟩,
    ⟨2519872200, -12600⟩, ⟨2530762200, -9000⟩, ⟨2551321800, -12600⟩, ⟨2562211800, -9000⟩,
    ⟨2582771400, -12600⟩, ⟨2593661400, -9000⟩, ⟨2614221000, -12600⟩, ⟨2625111000, -9000⟩,
    ⟨2645670600, -12600⟩, ⟨2656560600, -9000⟩, ⟨2677120200, -12600⟩, ⟨2688615000, -9000⟩,
    ⟨2709174600, -12600⟩, ⟨2720064600, -9000⟩, ⟨2740624200, -12600⟩, ⟨2751514200, -9000⟩,
    ⟨2772073800, -12600⟩, ⟨2782963800, -9000⟩, ⟨2803523400, -12600⟩, ⟨2814413400, -9000⟩,
    ⟨2834973000, -12600⟩, ⟨2846467800, -9000⟩, ⟨2867027400, -12600⟩, ⟨2877917400, -9000⟩,
    ⟨2898477000, -12600⟩, ⟨2909367000, -9000⟩, ⟨2929926600, -12600⟩, ⟨2940816600, -9000⟩,
    ⟨2961376200, -12600⟩, ⟨2972266200, -9000⟩, ⟨2992825800, -12600⟩, ⟨3003715800, -9000⟩,
    ⟨3024275400, -12600⟩, ⟨3035770200, -9000⟩, ⟨3056329800, -12600⟩, ⟨3067219800, -9000⟩,
    ⟨3087779400, -12600⟩, ⟨3098669400, -9000⟩, ⟨3119229000, -12600⟩, ⟨3130119000, -9000⟩,
    ⟨3150678600, -12600⟩, ⟨3161568600, -9000⟩, ⟨3182128200, -12600⟩, ⟨3193018200, -9000⟩,
    ⟨3213577800, -12600⟩, ⟨3225072600, -9000⟩, ⟨3245632200, -12600⟩, ⟨3256522200, -9000⟩,
    ⟨3277081800, -12600⟩, ⟨3287971800, -9000⟩, ⟨3308531400, -12600⟩, ⟨3319421400, -9000⟩,
    ⟨3339981000, -12600⟩, ⟨3350871000, -9000⟩, ⟨3371430600, -12600⟩, ⟨3382925400, -9000⟩,
    ⟨3403485000, -12600⟩, ⟨3414375000, -9000⟩, ⟨3434934600, -12600⟩, ⟨3445824600, -9000⟩,
    ⟨3466384200, -12600⟩, ⟨3477274200, -9000⟩, ⟨3497833800, -12600⟩, ⟨3508723800, -9000⟩,
    ⟨3529283400, -12600⟩, ⟨3540173400, -9000⟩, ⟨3560733000, -12600⟩, ⟨3572227800, -9000⟩,
    ⟨3592787400, -12600⟩, ⟨3603677400, -9000⟩, ⟨3624237000, -12600⟩, ⟨3635127000, -9000⟩,
    ⟨3655686600, -12600⟩, ⟨3666576600, -9000⟩, ⟨3687136200, -12600⟩, ⟨3698026200, -9000⟩,
    ⟨3718585800, -12600⟩, ⟨3730080600, -9000⟩, ⟨3750640200, -12600⟩, ⟨3761530200, -9000⟩,
    ⟨3782089800, -12600⟩, ⟨3792979800, -9000⟩, ⟨3813539400, -12600⟩, ⟨3824429400, -9000⟩,
    ⟨3844989000, -12600⟩, ⟨3855879000, -9000⟩, ⟨3876438600, -12600⟩, ⟨3887328600, -9000⟩,
    ⟨3907888200, -12600⟩, ⟨3919383000, -9000⟩, ⟨3939942600, -12600⟩, ⟨3950832600, -9000⟩,
    ⟨3971392200, -12600⟩, ⟨3982282200, -9000⟩, ⟨4002841800, -12600⟩, ⟨4013731800, -9000⟩,
    ⟨4034291400, -12600⟩, ⟨4045181400, -9000⟩, ⟨4065741000, -12600⟩, ⟨4076631000, -9000⟩,
    ⟨4097190600, -12600⟩]⟩

def panama : Zone :=
  ⟨"America/Panama", -19088, [
    ⟨-2524502512, -19176⟩, ⟨-1946918424, -18000⟩]⟩

def saoPaulo : Zone :=
  ⟨"America/Sao_Paulo", -11188, [
    ⟨-1767214412, -10800⟩, ⟨-1206957600, -7200⟩, ⟨-1191362400, -10800⟩, ⟨-1175374800, -7200⟩,
    ⟨-1159826400, -10800⟩, ⟨-633819600, -7200⟩, ⟨-622069200, -10800⟩, ⟨-602283600, -7200⟩,
    ⟨-591832800, -10800⟩, ⟨-570747600, -7200⟩, ⟨-560210400, -10800⟩, ⟨-539125200, -7200⟩,
    ⟨-531352800, -10800⟩, ⟨-195426000, -7200⟩, ⟨-184197600, -10800⟩, ⟨-155163600, -7200⟩,
    ⟨-150069600, -10800⟩, ⟨-128898000, -7200⟩, ⟨-121125600, -10800⟩, ⟨-99954000, -7200⟩,
    ⟨-89589600, -10800⟩, ⟨-68418000, -7200⟩, ⟨-57967200, -10800⟩, ⟨499748400, -7200⟩,
    ⟨511236000, -10800⟩, ⟨530593200, -7200⟩, ⟨540266400, -10800⟩, ⟨562129200, -7200⟩,
    ⟨571197600, -10800⟩, ⟨592974000, -7200⟩, ⟨602042400, -10800⟩, ⟨624423600, -7200⟩,
    ⟨634701600, -10800⟩, ⟨656478000, -7200⟩, ⟨666756000, -10800⟩, ⟨687927600, -7200⟩,
    ⟨697600800, -10800⟩, ⟨719982000, -7200⟩, ⟨728445600, -10800⟩, ⟨750826800, -7200⟩,
    ⟨761709600, -10800⟩, ⟨782276400, -7200⟩, ⟨793159200, -10800⟩, ⟨813726000, -7200⟩,
    ⟨824004000, -10800⟩, ⟨844570800, -7200⟩, ⟨856058400, -10800⟩, ⟨876106800, -7200⟩,
    ⟨888717600, -10800⟩, ⟨908074800, -7200⟩, ⟨919562400, -10800⟩, ⟨938919600, -7200⟩,
    ⟨951616800, -10800⟩, ⟨970974000, -7200⟩, ⟨982461600, -10800⟩, ⟨1003028400, -7200⟩,
    ⟨1013911200, -10800⟩, ⟨1036292400, -7200⟩, ⟨1045360800, -10800⟩, ⟨1066532400, -7200⟩,
    ⟨1076810400, -10800⟩, ⟨1099364400, -7200⟩, ⟨1108864800, -10800⟩, ⟨1129431600, -7200⟩,
    ⟨1140314400, -10800⟩, ⟨1162695600, -7200⟩, ⟨1172368800, -10800⟩, ⟨1192330800, -7200⟩,
    ⟨1203213600, -10800⟩, ⟨1224385200, -7200⟩, ⟨1234663200, -10800⟩, ⟨1255834800, -7200⟩,
    ⟨1266717600, -10800⟩, ⟨1287284400, -7200⟩, ⟨1298167200, -10800⟩, ⟨1318734000, -7200⟩,
    ⟨1330221600, -10800⟩, ⟨1350788400, -7200⟩, ⟨1361066400, -10800⟩, ⟨1382238000, -7200⟩,
    ⟨1392516000, -10800⟩, ⟨1413687600, -7200⟩, ⟨1424570400, -10800⟩, ⟨1445137200, -7200⟩,
    ⟨1456020000, -10800⟩, ⟨1476586800, -7200⟩, ⟨1487469600, -10800⟩, ⟨1508036400, -7200⟩,
    ⟨1518919200, -10800⟩, ⟨1541300400, -7200⟩, ⟨1550368800, -10800⟩]⟩

def buenosAires : Zone :=
  ⟨"America/Argentina/Buenos_Aires", -14028, [
    ⟨-2372097972, -15408⟩, ⟨-1567453392, -14400⟩, ⟨-1233432000, -10800⟩, ⟨-1222981200, -14400⟩,
    ⟨-1205956800, -10800⟩, ⟨-1194037200, -14400⟩, ⟨-1172865600, -10800⟩, ⟨-1162501200, -14400⟩,
    ⟨-1141329600, -10800⟩, ⟨-1130965200, -14400⟩, ⟨-1109793600, -10800⟩, ⟨-1099429200, -14400⟩,
    ⟨-1078257600, -10800⟩, ⟨-1067806800, -14400⟩, ⟨-1046635200, -10800⟩, ⟨-1036270800, -14400⟩,
    ⟨-1015099200, -10800⟩, ⟨-1004734800, -14400⟩, ⟨-983563200, -10800⟩, ⟨-973198800, -14400⟩,
    ⟨-952027200, -10800⟩, ⟨-941576400, -14400⟩, ⟨-931032000, -10800⟩, ⟨-900882000, -14400⟩,
    ⟨-890337600, -10800⟩, ⟨-833749200, -14400⟩, ⟨-827265600, -10800⟩, ⟨-752274000, -14400⟩,
    ⟨-733780800, -10800⟩, ⟨-197326800, -14400⟩, ⟨-190843200, -10800⟩, ⟨-184194000, -14400⟩,
    ⟨-164491200, -10800⟩, ⟨-152658000, -14400⟩, ⟨-132955200, -10800⟩, ⟨-121122000, -14400⟩,
    ⟨-101419200, -10800⟩, ⟨-86821200, -14400⟩, ⟨-71092800, -10800⟩, ⟨-54766800, -14400⟩,
    ⟨-39038400, -10800⟩, ⟨-23317200, -14400⟩, ⟨-7588800, -10800⟩, ⟨128142000, -7200⟩,
    ⟨136605600, -10800⟩, ⟨596948400, -7200⟩, ⟨605066400, -10800⟩, ⟨624423600, -7200⟩,
    ⟨636516000, -10800⟩, ⟨656478000, -7200⟩, ⟨667965600, -10800⟩, ⟨687927600, -7200⟩,
    ⟨699415200, -10800⟩, ⟨719377200, -7200⟩, ⟨731469600, -10800⟩, ⟨1198983600, -7200⟩,
    ⟨1205632800, -10800⟩, ⟨1224385200, -7200⟩, ⟨1237082400, -10800⟩]⟩

end Zone
end FleetLifecycle
