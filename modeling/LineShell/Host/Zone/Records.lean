import LineShell.Text.Basic

/-!
What the clocks of places have shown since 1970. For each place there is the rule of now and those
of former times, the last first: a second of 1970's count and the rule that has held since then; the
rule in force at the beginning of 1970 stands behind them.
-/
namespace LineShell.Zone

structure Record where
  name : String
  later : List (Int × String)
  first : String

def records : List Record :=
  [⟨"Africa/Cairo", [(2145909600, "EET-2EEST,M4.5.5/0,M10.5.4/24"),
      (1924984800, "EET-2EEST,M4.5.5/0,M10.5.5/0"), (1893448800, "EET-2EEST,M4.4.5/0,M11.1.5/0"),
      (1735682400, "EET-2EEST,M4.5.5/0,M10.5.5/0"), (1704060000, "EET-2EEST,M4.4.5/0,M11.1.5/0"),
      (1672524000, "EET-2EEST,M4.4.5/0,M10.4.5/0"), (1411678800, "EET-2"), (1406844000, "EEST-3"),
      (1403816400, "EET-2"), (1400191200, "EEST-3"), (1285880400, "EET-2"),
      (1284069600, "EEST-3"), (1281474000, "EET-2"), (1272578400, "EEST-3"),
      (1262296800, "EET-2"), (1230760800, "EET-2EEST,M4.4.5/0,M8.3.5/0"),
      (1199138400, "EET-2EEST,M4.4.5/0,M8.5.5/0"), (1167602400, "EET-2EEST,M4.4.5/0,M9.1.5/0"),
      (1136066400, "EET-2EEST,M4.4.5/0,M9.4.5/0"), (1104530400, "EET-2EEST,M4.5.5/0,M9.5.5/0"),
      (1072908000, "EET-2EEST,M4.5.5/0,M10.1.5/0"), (946677600, "EET-2EEST,M4.4.5/0,M9.5.5/0"),
      (915141600, "EET-2EEST,M4.5.5/0,M10.1.5/0"), (788911200, "EET-2EEST,M4.4.5/0,M9.5.5/0"),
      (631144800, "EET-2EEST,J121/1,J274/3"), (599608800, "EET-2EEST,M5.1.6/1,M10.1.0/3"),
      (441756000, "EET-2EEST,J121/1,J274/3"), (410220000, "EET-2EEST,M7.2.2/1,M10.1.6/3"),
      (378684000, "EET-2EEST,M7.4.0/1,M10.1.5/3"), (-7200, "EET-2EEST,J121/1,J274/3")], "EET-2"⟩,
    ⟨"Africa/Johannesburg", [], "SAST-2"⟩,
    ⟨"Africa/Lagos", [], "WAT-1"⟩,
    ⟨"Africa/Nairobi", [], "EAT-3"⟩,
    ⟨"America/Anchorage", [(1167642000, "AKST9AKDT,M3.2.0,M11.1.0"),
      (536490000, "AKST9AKDT,M4.1.0,M10.5.0"), (441795600, "AKST9AKDT,M4.5.0,M10.4.0"),
      (439030800, "AKST9"), (436359600, "YST9"), (420033600, "AHDT9"), (410263200, "AHST10"),
      (189338400, "AHST10AHDT,M4.5.0,M10.5.0"), (157802400, "AHST10AHDT,M2.4.0,M10.4.0"),
      (126266400, "AHST10AHDT,M1.1.0,M10.4.0"), (36000, "AHST10AHDT,M4.5.0,M10.5.0")], "AHST10"⟩,
    ⟨"America/Argentina/Buenos_Aires", [(1237082400, "<-03>3"), (1230775200, "<-02>2"),
      (1199152800, "<-03>3<-02>,M10.3.0/0,M3.3.0/0"), (1198983600, "<-02>2"),
      (731469600, "<-03>3"), (725853600, "<-02>2"), (599623200, "<-03>3<-02>,M10.3.0/0,M3.1.0/0"),
      (596948400, "<-02>2"), (157777200, "<-03>3"), (126241200, "<-03>3<-02>,M1.4.3/0,M5.1.3/0")
      ], "<-03>3"⟩,
    ⟨"America/Bogota", [(729057600, "<-05>5"), (704869200, "<-04>4")], "<-05>5"⟩,
    ⟨"America/Caracas", [(1462086000, "<-04>4"), (1197183600, "<-0430>4:30")], "<-04>4"⟩,
    ⟨"America/Chicago", [(1167631200, "CST6CDT,M3.2.0,M11.1.0"),
      (536479200, "CST6CDT,M4.1.0,M10.5.0"), (189324000, "CST6CDT,M4.5.0,M10.5.0"),
      (157788000, "CST6CDT,M2.4.0,M10.4.0"), (126252000, "CST6CDT,M1.1.0,M10.4.0"),
      (21600, "CST6CDT,M4.5.0,M10.5.0")], "CST6"⟩,
    ⟨"America/Denver", [(1167634800, "MST7MDT,M3.2.0,M11.1.0"),
      (536482800, "MST7MDT,M4.1.0,M10.5.0"), (189327600, "MST7MDT,M4.5.0,M10.5.0"),
      (157791600, "MST7MDT,M2.4.0,M10.4.0"), (126255600, "MST7MDT,M1.1.0,M10.4.0"),
      (25200, "MST7MDT,M4.5.0,M10.5.0")], "MST7"⟩,
    ⟨"America/Halifax", [(1167624000, "AST4ADT,M3.2.0,M11.1.0"),
      (536472000, "AST4ADT,M4.1.0,M10.5.0"), (14400, "AST4ADT,M4.5.0,M10.5.0")], "AST4"⟩,
    ⟨"America/Los_Angeles", [(1167638400, "PST8PDT,M3.2.0,M11.1.0"),
      (536486400, "PST8PDT,M4.1.0,M10.5.0"), (189331200, "PST8PDT,M4.5.0,M10.5.0"),
      (157795200, "PST8PDT,M2.4.0,M10.4.0"), (126259200, "PST8PDT,M1.1.0,M10.4.0"),
      (28800, "PST8PDT,M4.5.0,M10.5.0")], "PST8"⟩,
    ⟨"America/Mexico_City", [(1672552800, "CST6"), (1009864800, "CST6CDT,M4.1.0,M10.5.0"),
      (978328800, "CST6CDT,M5.1.0,M9.5.0"), (820476000, "CST6CDT,M4.1.0,M10.5.0")], "CST6"⟩,
    ⟨"America/New_York", [(1167627600, "EST5EDT,M3.2.0,M11.1.0"),
      (536475600, "EST5EDT,M4.1.0,M10.5.0"), (189320400, "EST5EDT,M4.5.0,M10.5.0"),
      (157784400, "EST5EDT,M2.4.0,M10.4.0"), (126248400, "EST5EDT,M1.1.0,M10.4.0"),
      (18000, "EST5EDT,M4.5.0,M10.5.0")], "EST5"⟩,
    ⟨"America/Phoenix", [], "MST7"⟩,
    ⟨"America/Sao_Paulo", [(1550368800, "<-03>3"), (1546308000, "<-02>2"),
      (1514772000, "<-03>3<-02>,M11.1.0/0,M2.3.0/0"),
      (1451613600, "<-03>3<-02>,M10.3.0/0,M2.3.0/0"),
      (1420077600, "<-03>3<-02>,M10.3.0/0,M2.4.0/0"),
      (1357005600, "<-03>3<-02>,M10.3.0/0,M2.3.0/0"),
      (1325383200, "<-03>3<-02>,M10.3.0/0,M2.4.0/0"),
      (1199152800, "<-03>3<-02>,M10.3.0/0,M2.3.0/0"),
      (1167616800, "<-03>3<-02>,M10.2.0/0,M2.4.0/0"),
      (1136080800, "<-03>3<-02>,M11.1.0/0,M2.3.0/0"),
      (1104544800, "<-03>3<-02>,M10.3.0/0,M2.3.0/0"),
      (1072922400, "<-03>3<-02>,M11.1.2/0,M2.3.0/0"),
      (1041386400, "<-03>3<-02>,M10.3.0/0,M2.3.0/0"),
      (1009850400, "<-03>3<-02>,M11.1.0/0,M2.3.0/0"),
      (978314400, "<-03>3<-02>,M10.2.0/0,M2.3.0/0"),
      (946692000, "<-03>3<-02>,M10.2.0/0,M2.4.0/0"),
      (915156000, "<-03>3<-02>,M10.1.0/0,M2.3.0/0"),
      (883620000, "<-03>3<-02>,M10.2.0/0,M3.1.0/0"),
      (852084000, "<-03>3<-02>,M10.1.1/0,M2.3.0/0"),
      (820461600, "<-03>3<-02>,M10.1.0/0,M2.2.0/0"),
      (757389600, "<-03>3<-02>,M10.3.0/0,M2.3.0/0"),
      (725853600, "<-03>3<-02>,M10.3.0/0,M1.5.0/0"),
      (694231200, "<-03>3<-02>,M10.4.0/0,M2.2.0/0"),
      (662695200, "<-03>3<-02>,M10.3.0/0,M2.3.0/0"),
      (631159200, "<-03>3<-02>,M10.3.0/0,M2.2.0/0"),
      (599623200, "<-03>3<-02>,M10.3.0/0,M1.5.0/0"),
      (568000800, "<-03>3<-02>,M10.3.0/0,M2.1.0/0"),
      (536464800, "<-03>3<-02>,M10.4.0/0,M2.2.6/0"),
      (504928800, "<-03>3<-02>,M10.4.6/0,M3.3.6/0"), (499748400, "<-02>2")], "<-03>3"⟩,
    ⟨"America/St_Johns", [(1325388600, "NST3:30NDT,M3.2.0,M11.1.0"),
      (1293852600, "NST3:30NDT,M3.2.0/0:01,M11.1.0"),
      (1167622200, "NST3:30NDT,M3.2.0/0:01,M11.1.0/0:01"),
      (599628600, "NST3:30NDT,M4.1.0/0:01,M10.5.0/0:01"),
      (568006200, "NST3:30NDDT1:30,M4.1.0/0:01,M10.5.0/0:01"),
      (536470200, "NST3:30NDT,M4.1.0/0:01,M10.4.0/0:01"), (12600, "NST3:30NDT,M4.5.0,M10.5.0")
      ], "NST3:30"⟩,
    ⟨"America/Toronto", [(1167627600, "EST5EDT,M3.2.0,M11.1.0"),
      (536475600, "EST5EDT,M4.1.0,M10.5.0"), (18000, "EST5EDT,M4.5.0,M10.5.0")], "EST5"⟩,
    ⟨"Asia/Bangkok", [], "<+07>-7"⟩,
    ⟨"Asia/Dhaka", [(1262278800, "<+06>-6"), (1245430800, "<+07>-7")], "<+06>-6"⟩,
    ⟨"Asia/Dubai", [], "<+04>-4"⟩,
    ⟨"Asia/Hong_Kong", [(315504000, "HKT-8"), (283968000, "HKT-8HKST,M5.2.0/3:30,M10.3.0/3:30"),
      (220896000, "HKT-8"), (157737600, "HKT-8HKST,M4.3.0/3:30,M10.3.0/3:30"),
      (151439400, "HKT-8"), (126041400, "HKST-9"), (119989800, "HKT-8"), (104268600, "HKST-9"),
      (94665600, "HKT-8"), (63043200, "HKT-8HKST,M4.3.0/3:30,M10.4.0/3:30"),
      (-28800, "HKT-8HKST,M4.3.0/3:30,M10.3.0/3:30")], "HKT-8"⟩,
    ⟨"Asia/Jakarta", [], "WIB-7"⟩,
    ⟨"Asia/Jerusalem", [(2145909600, "IST-2IDT,M3.4.4/26,M10.5.0"),
      (2019679200, "IST-2IDT,M3.4.5,M10.5.0"), (1893448800, "IST-2IDT,M3.5.5,M10.5.0"),
      (1830290400, "IST-2IDT,M3.4.5,M10.5.0"), (1704060000, "IST-2IDT,M3.5.5,M10.5.0"),
      (1672524000, "IST-2IDT,M3.4.5,M10.5.0"), (1546293600, "IST-2IDT,M3.5.5,M10.5.0"),
      (1483221600, "IST-2IDT,M3.4.5,M10.5.0"), (1356991200, "IST-2IDT,M3.5.5,M10.5.0"),
      (1325368800, "IST-2IDT,M3.5.5,M9.4.0"), (1293832800, "IST-2IDT,M4.1.5,M10.1.0"),
      (1262296800, "IST-2IDT,M3.4.5,M9.2.0"), (1230760800, "IST-2IDT,M3.4.5,M9.4.0"),
      (1199138400, "IST-2IDT,M3.4.5,M10.1.0"), (1167602400, "IST-2IDT,M3.5.5,M9.3.0"),
      (1136066400, "IST-2IDT,M3.5.5,M10.1.0"), (1104530400, "IST-2IDT,M4.1.5,M10.2.0"),
      (1072908000, "IST-2IDT,M4.1.3/1,M9.4.3/1"), (1041372000, "IST-2IDT,M3.4.5/1,M10.1.5/1"),
      (1009836000, "IST-2IDT,M3.5.5/1,M10.1.1/1"), (978300000, "IST-2IDT,M4.2.1/1,M9.4.1/1"),
      (946677600, "IST-2IDT,M4.2.5,M10.1.5/1"), (915141600, "IST-2IDT,M4.1.5,M9.1.5"),
      (883605600, "IST-2IDT,M3.3.5/0,M9.1.0/0"), (852069600, "IST-2IDT,M3.3.5/0,M9.2.0/0"),
      (820447200, "IST-2IDT,M3.3.5/0,M9.3.1/0"), (788911200, "IST-2IDT,M3.5.5/0,M9.1.0/0"),
      (757375200, "IST-2IDT,M4.1.5/0,M8.4.0/0"), (725839200, "IST-2IDT,M4.1.5/0,M9.1.0/0"),
      (694216800, "IST-2IDT,M3.5.0/0,M9.1.0/0"), (662680800, "IST-2IDT,M3.4.0/0,M9.1.0/0"),
      (631144800, "IST-2IDT,M3.4.0/0,M8.4.0/0"), (599608800, "IST-2IDT,M4.5.0/0,M9.1.0/0"),
      (567986400, "IST-2IDT,M4.2.0/0,M9.1.0/0"), (536450400, "IST-2IDT,M4.3.3/0,M9.2.0/0"),
      (504914400, "IST-2IDT,M5.3.0/0,M9.1.0/0"), (473378400, "IST-2IDT,M4.2.0/0,M9.1.0/0"),
      (441756000, "IST-2IDT,M5.1.0/0,M8.4.0/1"), (347148000, "IST-2"),
      (315525600, "IST-2IDT,M8.1.0/0,M9.2.0/1"), (189295200, "IST-2"),
      (157759200, "IST-2IDT,M4.3.0/0,M8.5.0/0"), (126223200, "IST-2IDT,M7.1.0/0,M10.2.0/0")
      ], "IST-2"⟩,
    ⟨"Asia/Karachi", [(1262286000, "PKT-5"), (1230750000, "PKT-5PKST,M4.3.3/0,M11.1.0/0"),
      (1199127600, "PKT-5PKST,M6.1.0/0,M11.1.6/0"), (1041361200, "PKT-5"),
      (1009825200, "PKT-5PKST,M4.1.0/0,M10.1.0/0"), (38775600, "PKT-5")], "<+05>-5"⟩,
    ⟨"Asia/Kathmandu", [(504901800, "<+0545>-5:45")], "<+0530>-5:30"⟩,
    ⟨"Asia/Kolkata", [], "IST-5:30"⟩,
    ⟨"Asia/Manila", [(662659200, "PST-8"), (631123200, "PST-8PDT,M5.3.1/0,M7.5.0/0"),
      (252432000, "PST-8"), (220896000, "PST-8PDT,M3.4.1/0,M9.4.4/0")], "PST-8"⟩,
    ⟨"Asia/Seoul", [(599583600, "KST-9"), (536425200, "KST-9KDT,M5.2.0,M10.2.0/3")], "KST-9"⟩,
    ⟨"Asia/Shanghai", [(694195200, "CST-8"), (662659200, "CST-8CDT,M4.2.0,M9.3.0"),
      (599587200, "CST-8CDT,M4.3.0,M9.3.0"), (567964800, "CST-8CDT,M4.3.0,M9.2.0"),
      (536428800, "CST-8CDT,M4.2.0,M9.2.0"), (504892800, "CST-8CDT,M5.1.0,M9.2.0")], "CST-8"⟩,
    ⟨"Asia/Singapore", [(378662400, "<+08>-8")], "<+0730>-7:30"⟩,
    ⟨"Asia/Tehran", [(1672518600, "<+0330>-3:30"),
      (1609446600, "<+0330>-3:30<+0430>,J81/0,J265/0"),
      (1577824200, "<+0330>-3:30<+0430>,M3.3.6/0,M9.3.1/0"),
      (1483216200, "<+0330>-3:30<+0430>,J81/0,J265/0"),
      (1451593800, "<+0330>-3:30<+0430>,M3.3.1/0,M9.3.3/0"),
      (1356985800, "<+0330>-3:30<+0430>,J81/0,J265/0"),
      (1325363400, "<+0330>-3:30<+0430>,M3.3.3/0,M9.3.5/0"),
      (1230755400, "<+0330>-3:30<+0430>,J81/0,J265/0"),
      (1199133000, "<+0330>-3:30<+0430>,M3.3.5/0,M9.3.0/0"), (1136061000, "<+0330>-3:30"),
      (1104525000, "<+0330>-3:30<+0430>,M3.4.2/0,M9.4.4/0"),
      (1072902600, "<+0330>-3:30<+0430>,M3.3.0/0,M9.3.2/0"),
      (978294600, "<+0330>-3:30<+0430>,J81/0,J265/0"),
      (946672200, "<+0330>-3:30<+0430>,M3.3.2/0,M9.3.4/0"),
      (852064200, "<+0330>-3:30<+0430>,J81/0,J265/0"),
      (820441800, "<+0330>-3:30<+0430>,M3.3.4/0,M9.3.6/0"),
      (694211400, "<+0330>-3:30<+0430>,J81/0,J265/0"),
      (662675400, "<+0330>-3:30<+0430>,M5.1.5/0,M9.4.0/0"), (347142600, "<+0330>-3:30"),
      (315520200, "<+0330>-3:30<+0430>,M3.3.5/0,M9.4.2/0"),
      (283984200, "<+0330>-3:30<+0430>,M5.4.0/0,M9.3.3/0"), (279576000, "<+0330>-3:30"),
      (271108800, "<+04>-4"), (259617600, "<+05>-5"), (246223800, "<+04>-4"),
      (227820600, "<+0430>-4:30")], "<+0330>-3:30"⟩,
    ⟨"Asia/Tokyo", [], "JST-9"⟩,
    ⟨"Atlantic/Reykjavik", [], "GMT0"⟩,
    ⟨"Australia/Adelaide", [(1199107800, "ACST-9:30ACDT,M10.1.0,M4.1.0/3"),
      (1167571800, "ACST-9:30ACDT,M10.4.0,M3.4.0/3"),
      (1136035800, "ACST-9:30ACDT,M10.5.0,M4.1.0/3"),
      (788880600, "ACST-9:30ACDT,M10.5.0,M3.5.0/3"),
      (757344600, "ACST-9:30ACDT,M10.5.0,M3.3.0/3"),
      (725808600, "ACST-9:30ACDT,M10.5.0,M3.1.0/3"),
      (694186200, "ACST-9:30ACDT,M10.4.0,M3.4.0/3"),
      (662650200, "ACST-9:30ACDT,M10.4.0,M3.1.0/3"),
      (536419800, "ACST-9:30ACDT,M10.5.0,M3.3.0/3"),
      (504883800, "ACST-9:30ACDT,M10.3.0,M3.3.0/3"), (94656600, "ACST-9:30ACDT,M10.5.0,M3.1.0/3"),
      (63034200, "ACST-9:30ACDT,M10.5.0,M2.4.0/3"), (57688200, "ACDT-10:30")], "ACST-9:30"⟩,
    ⟨"Australia/Brisbane", [(699379200, "AEST-10"), (694184400, "AEDT-11"),
      (631112400, "AEST-10AEDT,M10.4.0,M3.1.0/3"), (625593600, "AEDT-11"), (67968000, "AEST-10"),
      (57686400, "AEDT-11")], "AEST-10"⟩,
    ⟨"Australia/Perth", [(1238263200, "AWST-8"), (1230735600, "AWDT-9"),
      (1167577200, "AWST-8AWDT,M10.4.0,M3.5.0/3"), (1165082400, "AWDT-9"), (699386400, "AWST-8"),
      (690314400, "AWDT-9"), (447184800, "AWST-8"), (436298400, "AWDT-9"), (162928800, "AWST-8"),
      (152042400, "AWDT-9")], "AWST-8"⟩,
    ⟨"Australia/Sydney", [(1199106000, "AEST-10AEDT,M10.1.0,M4.1.0/3"),
      (1167570000, "AEST-10AEDT,M10.4.0,M3.4.0/3"), (1136034000, "AEST-10AEDT,M10.5.0,M4.1.0/3"),
      (978267600, "AEST-10AEDT,M10.5.0,M3.5.0/3"), (946645200, "AEST-10AEDT,M8.4.0,M3.4.0/3"),
      (820414800, "AEST-10AEDT,M10.5.0,M3.5.0/3"), (631112400, "AEST-10AEDT,M10.5.0,M3.1.0/3"),
      (536418000, "AEST-10AEDT,M10.5.0,M3.3.0/3"), (504882000, "AEST-10AEDT,M10.3.0,M3.3.0/3"),
      (410187600, "AEST-10AEDT,M10.5.0,M3.1.0/3"), (378651600, "AEST-10AEDT,M10.5.0,M4.1.0/3"),
      (94654800, "AEST-10AEDT,M10.5.0,M3.1.0/3"), (63032400, "AEST-10AEDT,M10.5.0,M2.4.0/3"),
      (57686400, "AEDT-11")], "AEST-10"⟩,
    ⟨"Europe/Amsterdam", [(820450800, "CET-1CEST,M3.5.0,M10.5.0/3"),
      (347151600, "CET-1CEST,M3.5.0,M9.5.0/3"), (283993200, "CET-1CEST,M4.1.0,M9.5.0/3"),
      (252457200, "CET-1CEST,M4.1.0,M10.1.0/3"), (220921200, "CET-1CEST,M4.1.0,M9.4.0/3")
      ], "CET-1"⟩,
    ⟨"Europe/Athens", [(820447200, "EET-2EEST,M3.5.0/3,M10.5.0/4"),
      (347148000, "EET-2EEST,M3.5.0/3,M9.5.0/4"), (315525600, "EET-2EEST,M4.1.2/0,M9.4.0/0"),
      (283989600, "EET-2EEST,M4.1.0/9,M9.5.6"), (252453600, "EET-2EEST,M4.1.0,M9.4.0/4"),
      (220917600, "EET-2EEST,M4.1.0,M9.4.1/3"), (189295200, "EET-2EEST,M4.2.0,M10.2.0/3"),
      (157759200, "EET-2EEST,M4.2.6/0,M11.4.3/1")], "EET-2"⟩,
    ⟨"Europe/Berlin", [(820450800, "CET-1CEST,M3.5.0,M10.5.0/3"),
      (347151600, "CET-1CEST,M3.5.0,M9.5.0/3"), (315529200, "CET-1CEST,M4.1.0,M9.4.0/3")
      ], "CET-1"⟩,
    ⟨"Europe/Dublin", [(915148800, "GMT0IST,M3.5.0/1,M10.5.0"),
      (725846400, "GMT0IST,M3.5.0/1,M10.4.0"), (599616000, "GMT0IST,M3.5.0/1,M10.5.0"),
      (347155200, "GMT0IST,M3.5.0/1,M10.4.0"), (252460800, "GMT0IST,M3.3.0,M10.5.0/3"),
      (189302400, "GMT0IST,M3.3.0,M10.4.0/3"), (63072000, "GMT0IST,M3.3.0,M10.5.0/3"),
      (57722400, "GMT0")], "IST-1"⟩,
    ⟨"Europe/Istanbul", [(1473195600, "<+03>-3"), (1459040400, "EEST-3"), (1451599200, "EET-2"),
      (1420063200, "EET-2EEST,M3.5.0/3,M11.2.0/4"), (1388527200, "EET-2EEST,M3.5.1/3,M10.4.0/4"),
      (1325368800, "EET-2EEST,M3.5.0/3,M10.4.0/4"), (1293832800, "EET-2EEST,M3.4.1/3,M10.5.0/4"),
      (1167602400, "EET-2EEST,M3.5.0/3,M10.5.0/4"), (820447200, "EET-2EEST,M3.5.0/1,M10.5.0"),
      (788911200, "EET-2EEST,M3.4.0/1,M9.4.0"), (757375200, "EET-2EEST,M3.3.0/1,M9.4.0"),
      (504914400, "EET-2EEST,M3.5.0/1,M9.5.0"), (473378400, "EET-2EEST,M4.3.6/1,M9.4.6"),
      (468111600, "EET-2"), (441752400, "<+03>-3"), (410216400, "<+03>-3<+04>,M7.5.0,M10.1.0"),
      (267915600, "<+03>-3"), (260323200, "EEST-3"), (252453600, "EET-2"),
      (220917600, "EET-2EEST,M4.1.0,M10.3.0"), (189295200, "EET-2EEST,M3.3.0,M10.5.0"),
      (157759200, "EET-2EEST,M3.4.6,M11.1.0"), (126223200, "EET-2EEST,M3.5.0,M11.1.0"),
      (94687200, "EET-2EEST,M6.1.0/1,M11.1.0")], "EET-2"⟩,
    ⟨"Europe/Lisbon", [(852076800, "WET0WEST,M3.5.0/1,M10.5.0"), (846378000, "WET0"),
      (828234000, "WEST-1"), (820450800, "CET-1"), (725842800, "CET-1CEST,M3.4.0,M9.4.0/3"),
      (717555600, "CET-1"), (701830800, "WEST-1"), (694224000, "WET0"),
      (504921600, "WET0WEST,M3.5.0/1,M9.5.0"), (347155200, "WET0WEST,M3.5.0/0,M9.5.0/1"),
      (283996800, "WET0WEST,M4.1.0/1,M9.5.0"), (252460800, "WET0WEST,M4.1.0/1,M10.1.0"),
      (220924800, "WET0WEST,M3.4.0/0,M9.4.0/1"), (212544000, "WET0")], "CET-1"⟩,
    ⟨"Europe/London", [(915148800, "GMT0BST,M3.5.0/1,M10.5.0"),
      (725846400, "GMT0BST,M3.5.0/1,M10.4.0"), (599616000, "GMT0BST,M3.5.0/1,M10.5.0"),
      (347155200, "GMT0BST,M3.5.0/1,M10.4.0"), (252460800, "GMT0BST,M3.3.0,M10.5.0/3"),
      (189302400, "GMT0BST,M3.3.0,M10.4.0/3"), (63072000, "GMT0BST,M3.3.0,M10.5.0/3"),
      (57722400, "GMT0")], "BST-1"⟩,
    ⟨"Europe/Madrid", [(820450800, "CET-1CEST,M3.5.0,M10.5.0/3"),
      (347151600, "CET-1CEST,M3.5.0,M9.5.0/3"), (283993200, "CET-1CEST,M4.1.0,M9.5.0/3"),
      (252457200, "CET-1CEST,M4.1.0,M10.1.0/3"), (220921200, "CET-1CEST,M4.1.6/23,M9.4.0/1"),
      (189298800, "CET-1CEST,M3.4.6/23,M9.4.0/1"), (126226800, "CET-1CEST,M4.2.6/23,M10.1.0/1")
      ], "CET-1"⟩,
    ⟨"Europe/Moscow", [(1414274400, "MSK-3"), (1301180400, "MSK-4"), (1293829200, "MSK-3"),
      (820443600, "MSK-3MSD,M3.5.0,M10.5.0/3"), (725835600, "MSK-3MSD,M3.4.0,M9.4.0/3"),
      (717548400, "MSK-3"), (701823600, "MSD-4"), (695779200, "MSK-3"), (686102400, "EET-2"),
      (670374000, "EEST-3"), (662677200, "MSK-3"), (473374800, "MSK-3MSD,M3.5.0,M9.5.0/3"),
      (441752400, "MSK-3MSD,M4.1.0/0,M9.5.0/3"), (347144400, "MSK-3MSD,J91/0,J274/0")], "MSK-3"⟩,
    ⟨"Europe/Paris", [(820450800, "CET-1CEST,M3.5.0,M10.5.0/3"),
      (347151600, "CET-1CEST,M3.5.0,M9.5.0/3"), (283993200, "CET-1CEST,M4.1.0,M9.5.0/3"),
      (252457200, "CET-1CEST,M4.1.0,M10.1.0/3"), (220921200, "CET-1CEST,M4.1.0,M9.4.0/3"),
      (189298800, "CET-1CEST,M3.4.0/1,M9.4.0/1")], "CET-1"⟩,
    ⟨"Europe/Rome", [(820450800, "CET-1CEST,M3.5.0,M10.5.0/3"),
      (347151600, "CET-1CEST,M3.5.0,M9.5.0/3"), (315529200, "CET-1CEST,M4.1.0,M9.4.0/3"),
      (283993200, "CET-1CEST,M5.4.0/0,M9.5.0/1"), (252457200, "CET-1CEST,M5.4.0/0,M10.1.0/1"),
      (220921200, "CET-1CEST,M5.4.0/0,M9.4.0/1"), (189298800, "CET-1CEST,M5.5.0/0,M9.4.0/1"),
      (157762800, "CET-1CEST,M6.1.0/0,M9.4.0/1"), (126226800, "CET-1CEST,M5.4.0/0,M9.5.0/1"),
      (94690800, "CET-1CEST,M6.1.0/0,M9.5.0/1"), (63068400, "CET-1CEST,M5.4.0/0,M10.1.0/1"),
      (31532400, "CET-1CEST,M5.4.0/0,M9.4.0/1"), (-3600, "CET-1CEST,M5.5.0/0,M9.4.0/1")], "CET-1"⟩,
    ⟨"Europe/Stockholm", [(820450800, "CET-1CEST,M3.5.0,M10.5.0/3"),
      (347151600, "CET-1CEST,M3.5.0,M9.5.0/3"), (315529200, "CET-1CEST,M4.1.0,M9.4.0/3")
      ], "CET-1"⟩,
    ⟨"Europe/Vienna", [(820450800, "CET-1CEST,M3.5.0,M10.5.0/3"),
      (347151600, "CET-1CEST,M3.5.0,M9.5.0/3"), (315529200, "CET-1CEST,M4.1.0/0,M9.4.0/0")
      ], "CET-1"⟩,
    ⟨"Europe/Warsaw", [(820450800, "CET-1CEST,M3.5.0,M10.5.0/3"),
      (567990000, "CET-1CEST,M3.5.0,M9.5.0/3"), (347151600, "CET-1CEST,M3.5.0/1,M9.5.0"),
      (283993200, "CET-1CEST,M4.1.0/1,M9.5.0"), (252457200, "CET-1CEST,M4.1.0/1,M10.1.0"),
      (220921200, "CET-1CEST,M4.1.0/1,M9.4.0")], "CET-1"⟩,
    ⟨"Europe/Zurich", [(820450800, "CET-1CEST,M3.5.0,M10.5.0/3"),
      (347151600, "CET-1CEST,M3.5.0,M9.5.0/3")], "CET-1"⟩,
    ⟨"Pacific/Auckland", [(1199098800, "NZST-12NZDT,M9.5.0,M4.1.0/3"),
      (1167562800, "NZST-12NZDT,M9.5.0,M3.3.0/3"), (631105200, "NZST-12NZDT,M10.1.0,M3.3.0/3"),
      (599569200, "NZST-12NZDT,M10.2.0,M3.1.0/3"), (189255600, "NZST-12NZDT,M10.5.0,M3.1.0/3"),
      (157719600, "NZST-12NZDT,M10.4.0,M2.4.0/3"), (152632800, "NZDT-13")], "NZST-12"⟩,
    ⟨"Pacific/Honolulu", [], "HST10"⟩]

/-- Names of zones that have had the same rule all the time. -/
def steady : List (String × String) :=
  [("UTC", "UTC0"), ("Etc/UTC", "UTC0"), ("Universal", "UTC0"), ("Zulu", "UTC0"), ("UCT", "UTC0"),
    ("Etc/UCT", "UTC0"), ("Etc/Zulu", "UTC0"), ("GMT", "GMT0"), ("Etc/GMT", "GMT0"),
    ("GMT0", "GMT0"), ("Greenwich", "GMT0"), ("EST", "EST5"), ("MST", "MST7"), ("HST", "HST10")]

/-- Other names of places, with those that have the rules. -/
def otherNames : List (String × String) :=
  [("US/Eastern", "America/New_York"), ("EST5EDT", "America/New_York"),
    ("US/Central", "America/Chicago"), ("CST6CDT", "America/Chicago"),
    ("US/Mountain", "America/Denver"), ("MST7MDT", "America/Denver"),
    ("US/Pacific", "America/Los_Angeles"), ("PST8PDT", "America/Los_Angeles"),
    ("US/Alaska", "America/Anchorage"), ("US/Hawaii", "Pacific/Honolulu"),
    ("US/Arizona", "America/Phoenix"), ("Canada/Eastern", "America/Toronto"),
    ("Canada/Atlantic", "America/Halifax"), ("Canada/Newfoundland", "America/St_Johns"),
    ("America/Montreal", "America/Toronto"),
    ("America/Buenos_Aires", "America/Argentina/Buenos_Aires"),
    ("Brazil/East", "America/Sao_Paulo"), ("Egypt", "Africa/Cairo"), ("Japan", "Asia/Tokyo"),
    ("ROK", "Asia/Seoul"), ("PRC", "Asia/Shanghai"), ("Hongkong", "Asia/Hong_Kong"),
    ("Singapore", "Asia/Singapore"), ("Asia/Calcutta", "Asia/Kolkata"),
    ("Asia/Katmandu", "Asia/Kathmandu"), ("Israel", "Asia/Jerusalem"),
    ("Asia/Tel_Aviv", "Asia/Jerusalem"), ("Iran", "Asia/Tehran"), ("Turkey", "Europe/Istanbul"),
    ("Iceland", "Atlantic/Reykjavik"), ("GB", "Europe/London"),
    ("Europe/Belfast", "Europe/London"), ("Eire", "Europe/Dublin"), ("Portugal", "Europe/Lisbon"),
    ("Poland", "Europe/Warsaw"), ("W-SU", "Europe/Moscow"),
    ("Europe/Brussels", "Europe/Amsterdam"), ("Europe/Copenhagen", "Europe/Berlin"),
    ("Europe/Oslo", "Europe/Berlin"), ("CET", "Europe/Amsterdam"), ("EET", "Europe/Athens"),
    ("WET", "Europe/Lisbon"), ("Australia/ACT", "Australia/Sydney"),
    ("Australia/NSW", "Australia/Sydney"), ("Australia/Canberra", "Australia/Sydney"),
    ("Australia/Melbourne", "Australia/Sydney"), ("Australia/Queensland", "Australia/Brisbane"),
    ("NZ", "Pacific/Auckland"), ("Africa/Abidjan", "Atlantic/Reykjavik"),
    ("Africa/Accra", "Atlantic/Reykjavik")]

end LineShell.Zone
